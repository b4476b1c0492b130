import FuncMeta.Command.Input
import FuncMeta.Report
import FuncMeta.Narration

/-!
# Answers of commands

Each query has its own kind of report. A query may be refused before the image is opened. Resolving
fails as a whole if the image cannot be decoded, but keeps a missing name as a result of its own.
-/

namespace FuncMeta

/-- What a query comes to. -/
inductive Answer where
  /-- The header. -/
  | header (report : HeaderReport)
  /-- What became of the names. -/
  | resolve (report : ResolveReport)
  /-- The functions. -/
  | list (report : ListReport)
  /-- The function at an address. -/
  | lookup (report : LookupReport)
  /-- The defects, which may be an error. -/
  | verify (report : AuditReport) (strict : Bool)

namespace Answer

/-- Why an answer is not good enough. -/
def failure? : Answer → Option Failure
  | resolve r =>
    if r.unresolved = 0 then none else some (.unresolved r.unresolved r.results.length)
  | verify r strict =>
    if strict ∧ ¬ r.audit.isClean then some (.issues r.audit.issues.length) else none
  | _ => none

end Answer

namespace Input

/-- The report on the header. -/
def headerReport (i : Input) : Told Failure HeaderReport where
  log := i.blob.region.headerNarration
  outcome :=
    match Header.decode i.blob.region with
    | .ok h => .ok (.of i.source h i.blob.region.size)
    | .error e => .error (.header e)

/-- What becomes of a name by a search. Only a missing name is a result. -/
def searchName (i : Input) (name : String) : Told Failure Resolution where
  log := i.blob.region.resolveNarration name
  outcome :=
    match i.blob.region.resolve name with
    | .ok address => .ok (.of name (.ok address))
    | .error e => if e.isNotFound then .ok (.of name (.error e)) else .error (.resolve e)
    | .halt => .halt

/-- The index of all functions. -/
def functionIndex (i : Input) : Told Failure SymbolIndex where
  log := i.blob.region.indexNarration
  outcome := i.blob.region.index.mapError .index

/-- What becomes of each name. -/
def resolutions (i : Input) (names : List String) (useIndex : Bool) :
    Told Failure (List Resolution) :=
  if useIndex then do
    let index ← i.functionIndex
    return names.map fun name ↦ .of name (index.resolve name)
  else names.mapM i.searchName

/-- The report on several names. -/
def resolveReport (i : Input) (names : List String) (useIndex : Bool) :
    Told Failure ResolveReport := do
  let results ← i.resolutions names useIndex
  return { source := i.source, results }

/-- The report on the functions whose names match a pattern, at most as many as the limit says. -/
def listReport (i : Input) (filter : Option Pattern) (limit : Option UInt64) :
    Told Failure ListReport where
  log := i.blob.region.headerNarration
  outcome := do
    let symbols ← i.blob.region.symbols.mapError .list
    let matching := symbols.filter fun s ↦ filter.all (·.occursIn s.name)
    return {
      source := i.source
      total := symbols.length
      symbols := match limit with
        | some n => matching.take n.toNat
        | none => matching }

/-- The report on the function at an address. -/
def lookupReport (i : Input) (pc : Address) : Told Failure LookupReport where
  log := i.blob.region.headerNarration
  outcome := do
    let function ← (i.blob.region.functionAt pc).mapError .lookup
    return .of i.source pc function

/-- The report on the defects. -/
def auditReport (i : Input) : Told Failure AuditReport where
  log := i.blob.region.auditNarration
  outcome := do
    let audit ← i.blob.region.audit.mapError .audit
    return { source := i.source, audit }

end Input

/-- The pattern of a filter, if there is one. -/
def readFilter : Option String → Except Failure (Option Pattern)
  | some text => (Pattern.read text).mapError .filter |>.map some
  | none => .ok none

/-- What a query comes to, given the input that it opens once it has not been refused. -/
def Query.answer (q : Query) (check : Except Failure Unit) (opened : Told Failure Input)
    (useIndex : Bool) : Told Failure Answer :=
  match q with
  | .header => do
    let i ← opened
    let report ← i.headerReport
    return .header report
  | .resolve names indexed => do
    Told.ofExcept check
    if names.any (·.isEmpty) then Told.fail .emptyName else pure ()
    let i ← opened
    let report ← i.resolveReport names (indexed || useIndex)
    return .resolve report
  | .list filter limit => do
    Told.ofExcept check
    let pattern ← Told.ofExcept (readFilter filter)
    if limit = some 0 then Told.fail .zeroLimit else pure ()
    let i ← opened
    let report ← i.listReport pattern limit
    return .list report
  | .lookup text => do
    Told.ofExcept check
    match Address.parse? text with
    | none => Told.fail (.address text)
    | some pc =>
      let i ← opened
      let report ← i.lookupReport pc
      return .lookup report
  | .verify strict => do
    let i ← opened
    let report ← i.auditReport
    return .verify report strict

end FuncMeta
