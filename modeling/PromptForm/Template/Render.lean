import PromptForm.Template.Filter

/-!
# Rendering templates

An expression has a value once its names have one; statements print text and bind names as they go. The
bindings of a loop last from round to round and end with the loop.
-/

namespace PromptForm.Template

/-- The meaning of names. -/
abbrev Meaning := String → Option Datum

/-- The part of data under a key. Nothing has no parts, not even nothing. -/
def partOf (d key : Datum) : Outcome Datum :=
  match d.part? key with
  | some part => .ok part
  | none => if d.isUndefined then .error .undefinedValue else .ok .undefined

namespace Expr

mutual
/-- What an expression stands for. -/
def value (env : Meaning) : Expr → Outcome Datum
  | .literal d => .ok d
  | .name n => .ok ((env n).getD .undefined)
  | .list items => return .list (← values env items)
  | .map entries => return .map (← entryValues env entries)
  | .negative e => do Operator.negate (← value env e)
  | .negation e => return .bool !(← value env e).truthy
  | .binary op l r => do
    let a ← value env l
    let b ← value env r
    op.apply a b
  | .both l r => do
    let a ← value env l
    if a.truthy then value env r else return a
  | .either l r => do
    let a ← value env l
    if a.truthy then return a else value env r
  | .choice t y n => do
    let a ← value env t
    if a.truthy then value env y else value env n
  | .attribute e label => do partOf (← value env e) (.string label)
  | .entry e k => do
    let a ← value env e
    let key ← value env k
    partOf a key
  | .slice e first last step => do
    let a ← value env e
    let first ← value env first
    let last ← value env last
    let step ← value env step
    Slice.apply a first last step
  | .filter e label args named => do
    let a ← value env e
    let args ← values env args
    let named ← namedValues env named
    Filter.apply label a args named
  | .test e label args => do
    let a ← value env e
    let args ← values env args
    return .bool (← Filter.test label a args)
  | .call function args named => do
    -- Arguments with names are evaluated but not handed on.
    let args ← values env args
    let _ ← namedValues env named
    Filter.call (env function) function args
  | .method e label args => do
    let a ← value env e
    let _ ← values env args
    Filter.callMethod a label
  | .invoke e args => do
    -- No value can be called, but what fails in its parts fails first.
    let _ ← value env e
    let _ ← values env args
    .error .invalidOperation
termination_by structural e => e
def values (env : Meaning) : List Expr → Outcome (List Datum)
  | [] => .ok []
  | e :: es => do
    let d ← value env e
    let ds ← values env es
    return d :: ds
termination_by structural es => es
def entryValues (env : Meaning) : List (Expr × Expr) → Outcome (List (Datum × Datum))
  | [] => .ok []
  | (k, e) :: es => do
    let key ← value env k
    let d ← value env e
    let entries ← entryValues env es
    -- of two entries for one key the later one stays
    return if (Datum.entry? key entries).isSome then entries else Datum.insertEntry key d entries
termination_by structural es => es
def namedValues (env : Meaning) : List (String × Expr) → Outcome (List (String × Datum))
  | [] => .ok []
  | (label, e) :: es => do
    let d ← value env e
    let ds ← namedValues env es
    return (label, d) :: ds
termination_by structural es => es
end

end Expr

/-! ### Statements -/

/-- The names that the template has bound, the latest first. -/
abbrev Bindings := List (String × Datum)

/-- The meaning of names under bindings. -/
def under (bindings : Bindings) (env : Meaning) : Meaning :=
  fun n => (Fields.get? n bindings).or (env n)

mutual
/-- The bindings after a target has taken data. Parts take the members of a list, or the keys of a map,
    if there are as many. -/
def Target.bind : Target → Datum → Bindings → Outcome Bindings
  | .name n, d, bindings => .ok ((n, d) :: bindings)
  | .parts ts, .list items, bindings => Target.bindParts ts items bindings
  | .parts ts, .map entries, bindings => Target.bindParts ts (entries.map (·.1)) bindings
  | .parts _, _, _ => .error .cannotUnpack
termination_by structural t => t
def Target.bindParts : List Target → List Datum → Bindings → Outcome Bindings
  | [], [], bindings => .ok bindings
  | t :: ts, d :: ds, bindings => do Target.bindParts ts ds (← t.bind d bindings)
  | _, _, _ => .error .cannotUnpack
termination_by structural ts => ts
end

/-- The members that pass a filter, which sees the target bound. -/
def passing (target : Target) (filter : Bindings → Outcome Datum) (bindings : Bindings) :
    List Datum → Outcome (List Datum)
  | [] => .ok []
  | d :: ds => do
    let a ← filter (← target.bind d bindings)
    let rest ← passing target filter bindings ds
    return if a.truthy then d :: rest else rest

/-- The rounds of a loop: what they print, one after the other. -/
def rounds (target : Target) (body : Bindings → Outcome (String × Bindings)) (length : Nat) :
    Nat → Bindings → List Datum → Outcome String
  | _, _, [] => .ok ""
  | index, bindings, d :: ds => do
    let bindings ← target.bind d (("loop", .loop index length) :: bindings)
    let (printed, bindings) ← body bindings
    let rest ← rounds target body length (index + 1) bindings ds
    return printed ++ rest

mutual
/-- What a statement prints, and the bindings after it. -/
def Statement.run (env : Meaning) : Statement → Bindings → Outcome (String × Bindings)
  | .text s, bindings => .ok (s, bindings)
  | .output e, bindings => do
    let d ← e.value (under bindings env)
    return (d.text, bindings)
  | .branch test yes no, bindings => do
    let d ← test.value (under bindings env)
    if d.truthy then runBody env yes bindings else runBody env no bindings
  | .loop target source filter body otherwise, bindings => do
    let d ← source.value (under bindings env)
    match d.members? with
    | none => .error .invalidOperation
    | some members =>
      let members ← (match filter with
        | some e => passing target (fun bindings => e.value (under bindings env)) bindings members
        | none => .ok members)
      -- What the rounds bind ends with the loop; what stands for no rounds binds for the statements after it.
      match members with
      | [] => do
        let (printed, bindings) ← runBody env otherwise bindings
        return (printed, bindings)
      | _ :: _ => do
        let printed ← rounds target (fun bindings => runBody env body bindings) members.length 0 bindings members
        return (printed, bindings)
  | .assign target e, bindings => do
    let d ← e.value (under bindings env)
    return ("", ← target.bind d bindings)
  | .capture name body, bindings => do
    let (printed, bindings) ← runBody env body bindings
    return ("", (name, .string printed) :: bindings)
termination_by structural s => s
/-- What statements print in turn, and the bindings after them. -/
def runBody (env : Meaning) : List Statement → Bindings → Outcome (String × Bindings)
  | [], bindings => .ok ("", bindings)
  | s :: rest, bindings => do
    let (printed, bindings) ← s.run env bindings
    let (more, bindings) ← runBody env rest bindings
    return (printed ++ more, bindings)
termination_by structural ss => ss
end

/-- What a template prints where names have a meaning. -/
def render (t : Template) (env : Meaning) : Outcome String := do
  let (printed, _) ← runBody env t.body []
  return printed

end PromptForm.Template
