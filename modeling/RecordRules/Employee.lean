import RecordRules.Record

/-!
# Employees

Records of the default attributes, and a rule over all four of them.
-/

namespace RecordRules.Employee

def record (age : Int64) (department : String) (salary experience : Int64) : Record :=
  .ofList [("age", Value.int age), ("department", .text department), ("salary", .int salary),
    ("experience", .int experience)]

def complexRule : String :=
  "((age > 30 AND department = 'Sales') OR (age < 25 AND department = 'Marketing')) "
    ++ "AND (salary > 50000 OR experience > 5)"

end RecordRules.Employee
