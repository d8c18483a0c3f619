import LoanDesk.Config
import LoanDesk.Filter.Set

/-!
# Configured filters

The filters of a set are those that keep loans and after them those that drop loans, each in the
order of the configuration.  A filter whose source is no expression stays in the set, where it
rejects every loan.
-/

namespace LoanDesk

/-- The source of a filter as a configuration gives it. -/
inductive FilterEntry where
  | bare (source : String)
  /-- The source stands under the key `filter`. -/
  | wrapped (source : String)
deriving DecidableEq, Repr

namespace FilterEntry

/-- The source of the filter. -/
def source : FilterEntry → String
  | bare s => s
  | wrapped s => s

/-- The entry of a value. -/
def ofJson? : Json → Option FilterEntry
  | .string s => some (bare s)
  | .object members =>
    (Config.member? ["filter"] members).bind fun
      | some v => (Config.text? v).map wrapped
      | none => none
  | _ => none

end FilterEntry

/-- The filters of an account: those that keep loans, and those that drop loans. -/
structure FilterConfig where
  inclusions : List FilterEntry
  exclusions : List FilterEntry

namespace FilterConfig

/-- The configuration of a value. -/
def ofJson? : Json → Option FilterConfig
  | .object members => do
    let entries := Config.list? FilterEntry.ofJson?
    let inclusions ← Config.field? ["basic", "filters"] entries [] members
    let exclusions ← Config.field? ["exclusions"] entries [] members
    return ⟨inclusions, exclusions⟩
  | _ => none

/-- The configuration that a text spells. -/
def read? (s : String) : Option FilterConfig := (Json5.read? s).bind ofJson?

/-- The number of filters. -/
def size (c : FilterConfig) : Nat := c.inclusions.length + c.exclusions.length

/-- The rules in the order in which they are applied. -/
def rules (c : FilterConfig) : List Rule :=
  c.inclusions.map (fun e => Rule.ofSource e.source .inclusion) ++
    c.exclusions.map fun e => Rule.ofSource e.source .exclusion

/-- The warning that a rule leaves whose source is no expression. -/
def warning? (r : Rule) : Option LogLine :=
  r.parseError?.map fun e =>
    .warning ("Invalid " ++ r.polarity.label ++ " filter (" ++ r.source ++ "): " ++ e.message ++
      ". It will reject every loan")

/-- The filters of the configuration, with what building them left in the log. -/
def build (c : FilterConfig) : List Filter × List LogLine :=
  (c.rules.map fun r => ⟨r, Counts.zero⟩, c.rules.filterMap warning?)

end FilterConfig

end LoanDesk
