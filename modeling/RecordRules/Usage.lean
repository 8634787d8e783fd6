import RecordRules.Error
import RecordRules.Number.Double
import Std.Data.ExtTreeMap

/-!
# Usage statistics

Counters of how often a rule was evaluated, how often it held and how long that took in
total. They are words of 64 bits and wrap around; a single latency is capped at the
greatest word before it is added. A `UsageLog` keeps the counters of every rule that
was evaluated. What the clock reads is given to an operation, and nothing is held of it.
-/

namespace RecordRules

open Number (Double)

/-- A reading of the clock, in nanoseconds from the start of 1970. -/
abbrev Timestamp := Int

structure UsageStats where
  evaluations : UInt64 := 0
  held : UInt64 := 0
  totalNanoseconds : UInt64 := 0
  lastEvaluated : Option Timestamp := none
  deriving DecidableEq

namespace UsageStats

def capped (nanoseconds : Nat) : UInt64 :=
  .ofNat (min nanoseconds (UInt64.size - 1))

def record (stats : UsageStats) (nanoseconds : Nat) (outcome : Bool) (now : Timestamp := 0) :
    UsageStats where
  evaluations := stats.evaluations + 1
  held := if outcome then stats.held + 1 else stats.held
  totalNanoseconds := stats.totalNanoseconds + capped nanoseconds
  lastEvaluated := some now

def evaluated (stats : UsageStats) : Bool := stats.lastEvaluated.isSome

def averageNanoseconds (stats : UsageStats) : UInt64 :=
  if stats.evaluations = 0 then 0 else stats.totalNanoseconds / stats.evaluations

end UsageStats

structure UsageReport where
  rule : RuleId
  evaluations : UInt64
  held : UInt64
  failed : UInt64
  /-- The part of the evaluations in which the rule held; 0 if there were none. -/
  successRate : Double
  averageMilliseconds : Double
  lastEvaluated : Option Timestamp
  deriving DecidableEq

def UsageReport.evaluated (report : UsageReport) : Bool := report.lastEvaluated.isSome

/-- Counters that have got out of step do not show in the report: a rule holds at most
as often as it is evaluated. -/
def UsageStats.report (stats : UsageStats) (id : RuleId) : UsageReport :=
  let held := min stats.held stats.evaluations
  { rule := id
    evaluations := stats.evaluations
    held
    failed := stats.evaluations - held
    successRate :=
      if stats.evaluations = 0 then .ofNat 0
      else (Double.ofNat held.toNat).div (.ofNat stats.evaluations.toNat)
    averageMilliseconds := (Double.ofNat stats.averageNanoseconds.toNat).div (.ofNat 1000000)
    lastEvaluated := stats.lastEvaluated }

abbrev UsageLog := Std.ExtTreeMap RuleId UsageStats

namespace UsageLog

def track (log : UsageLog) (id : RuleId) (nanoseconds : Nat) (outcome : Bool)
    (now : Timestamp := 0) : UsageLog :=
  log.insert id ((log.getD id {}).record nanoseconds outcome now)

def forget (log : UsageLog) (id : RuleId) : UsageLog :=
  log.erase id

def report (log : UsageLog) (id : RuleId) : UsageReport :=
  (log.getD id {}).report id

def reports (log : UsageLog) : List UsageReport :=
  log.toList.map fun (id, stats) => stats.report id

end UsageLog

end RecordRules
