import LogSearch.Client.Error
import LogSearch.QueryError
import LogSearch.Time.Timestamp
import LogSearch.World

/-!
# Why the program fails

A request that makes no sense is told apart from one that could not be carried out, and both from a
time or a delay that is out of range: they have different exit codes.

## What is here

* `UsageFault` — what makes no sense about a command line;
* `ProgramError` with its `message` and `exitCode`.
-/

set_option autoImplicit false
namespace LogSearch

open Time (Timestamp)

/-- What makes no sense about a command line. -/
inductive UsageFault
  /-- The window ends before it starts. -/
  | endBeforeStart (finish start : Timestamp)
  /-- There are so many arguments where one query was due. -/
  | severalQueries (count : Nat)
  deriving DecidableEq, Repr

/-- The fault in words. -/
def UsageFault.message : UsageFault → String
  | .endBeforeStart finish start =>
    s!"--end ({finish.display}) is before --start ({start.display})"
  | .severalQueries count =>
    s!"expected one KQL query, found {count} arguments; quote the query or pass " ++
      "--legacy-specifiers"

/-- Why the program fails. -/
inductive ProgramError
  | usage (fault : UsageFault)
  | query (error : QueryError)
  | client (error : ClientError)
  /-- The output did not take a line. -/
  | output (fault : OutputFault)
  /-- The hour before now is in no calendar. -/
  | noHourBefore
  /-- A delay before another attempt is out of range. -/
  | delayOverflow
  deriving DecidableEq, Repr

namespace ProgramError

/-- The error in words. -/
def message : ProgramError → String
  | .usage fault => fault.message
  | .query error => error.message
  | .client error => error.message
  | .output fault => "Failed to write output: " ++ fault.message
  | .noHourBefore => "The hour before now is in no calendar"
  | .delayOverflow => "The delay before another attempt is out of range"

/-- The exit code of a failed program: one for failures of what was asked for, two for requests
that make no sense.  Times and delays out of range are not expected; they abort the program. -/
def exitCode : ProgramError → Nat
  | .usage _ | .query _ => 2
  | .client _ | .output _ => 1
  | .noHourBefore | .delayOverflow => 101

end ProgramError

end LogSearch
