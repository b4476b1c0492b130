import FuncMeta.Command

/-!
# Reading the command line

Arguments are read from left to right. An option that takes a value waits for it, and a place that
may be filled again waits for more words; what waits is settled when something else comes, or at
the end. Behind two hyphens every argument is a word.
-/

namespace FuncMeta

/-- What has been read of one part of the command line. -/
structure Reading where
  /-- The parameters given, with their values; a parameter without a value has an empty one. -/
  given : List (Param × String) := []
  /-- What may still get values, with those that it has. -/
  pending : Option (Param × List String) := none
  /-- Whether an option waits for its value. -/
  waiting : Bool := false
  /-- Whether two hyphens have been read. -/
  wordsOnly : Bool := false
  /-- The places that a word may fill, the next one first. -/
  places : List Param := []

namespace Reading

/-- The part without arguments. -/
def start (s : Scope) : Reading := { places := s.places }

/-- The values of a parameter. -/
def values (r : Reading) (p : Param) : List String :=
  r.given.filterMap fun (param, value) ↦ if param = p then some value else none

/-- Whether a parameter is given. -/
def has (r : Reading) (p : Param) : Bool := r.given.any (·.1 = p)

/-- Checks the value of a parameter: a file has a name, and a limit is a number. -/
def check (p : Param) (value : String) : Except UsageError Unit :=
  match p with
  | .input | .config => if value.isEmpty then .error (.missingValue p) else .ok ()
  | .limit =>
    if (Numeral.word? 10 value.toList).isSome then .ok () else .error (.invalidNumber p value)
  | _ => .ok ()

/-- Gives a parameter its values. -/
def give (r : Reading) (p : Param) (values : List String) : Except UsageError Reading :=
  if p.takesValue ∧ values = [] then .error (.missingValue p)
  else if p = .help then .error .help
  else if p = .version then .error .version
  else if ¬ p.repeats ∧ r.has p then .error (.repeated p)
  else do
    values.forM (check p)
    let values := if p.takesValue then values else [""]
    return { r with given := r.given ++ values.map (p, ·) }

/-- Gives what waits the values that it has. -/
def settle (r : Reading) : Except UsageError Reading :=
  match r.pending with
  | some (p, values) => { r with pending := none }.give p values
  | none => .ok r

/-- Gives an option its values at once. -/
def takeNow (r : Reading) (p : Param) (values : List String) : Except UsageError Reading := do
  let r ← r.settle
  let r ← r.give p values
  return { r with waiting := false }

/-- Lets an option wait for its value. -/
def takeLater (r : Reading) (p : Param) : Except UsageError Reading := do
  let r ← r.settle
  return { r with pending := some (p, []), waiting := true }

/-- Reads an option with its long name, and its value if one is attached. -/
def takeLong (s : Scope) (r : Reading) (name : String) (value : Option String) :
    Except UsageError Reading :=
  match s.long? name, value with
  | none, _ => .error (.unknownArgument s!"--{name}")
  | some p, some value =>
    if p.takesValue then r.takeNow p [value] else .error (.unwantedValue p value)
  | some p, none => if p.takesValue then r.takeLater p else r.takeNow p []

/-- Reads options with their letters. What follows the letter of an option that takes a value is
its value, without an equals sign in front. -/
def takeShort (s : Scope) (r : Reading) : List Char → Except UsageError Reading
  | [] => .ok r
  | c :: cs =>
    match s.short? c with
    | none => .error (.unknownArgument (String.ofList ['-', c]))
    | some p =>
      if p.takesValue then
        match cs with
        | [] => r.takeLater p
        | '=' :: value => r.takeNow p [String.ofList value]
        | value => r.takeNow p [String.ofList value]
      else do
        let r ← r.takeNow p []
        takeShort s r cs

/-- Fills the next place with a word. -/
def takePlace (s : Scope) (r : Reading) (word : String) : Except UsageError Reading :=
  match r.places, s with
  | p :: places, _ =>
    match r.pending with
    | some (q, values) =>
      if p = q ∧ p.repeats then
        .ok { r with pending := some (p, values ++ [word]), waiting := false }
      else do
        let r ← r.settle
        return { r with
          pending := some (p, [word])
          waiting := false
          places := if p.repeats then p :: places else places }
    | none =>
      .ok { r with
        pending := some (p, [word])
        waiting := false
        places := if p.repeats then p :: places else places }
  | [], .verb _ => .error (.unknownArgument word)
  | [], .root =>
    if r.wordsOnly ∧ ((Verb.ofName? word).isSome ∨ word = "help") then
      .error (.unknownArgument word)
    else .error (.unknownVerb word)

/-- Reads a word: the value that an option waits for, or else what fills the next place. -/
def takeWord (s : Scope) (r : Reading) (word : String) : Except UsageError Reading :=
  match r.waiting, r.pending with
  | true, some (p, values) =>
    .ok { r with pending := some (p, values ++ [word]), waiting := false }
  | _, _ => r.takePlace s word

/-- The long name of an option and the value attached to it. -/
def splitLong (cs : List Char) : String × Option String :=
  let name := String.ofList (cs.takeWhile (· ≠ '='))
  match cs.dropWhile (· ≠ '=') with
  | _ :: value => (name, some (String.ofList value))
  | [] => (name, none)

/-- Reads one argument. -/
def take (s : Scope) (r : Reading) (argument : String) : Except UsageError Reading :=
  if r.wordsOnly then r.takePlace s argument
  else
    match argument.toList with
    | ['-', '-'] => .ok { r with wordsOnly := true }
    | '-' :: '-' :: option =>
      let (name, value) := splitLong option
      r.takeLong s name value
    | '-' :: letter :: letters => r.takeShort s (letter :: letters)
    | _ => r.takeWord s argument

/-- Reads the arguments behind a verb. -/
def readVerb (v : Verb) (arguments : List String) : Except UsageError Reading := do
  let r ← arguments.foldlM (take (.verb v)) (start (.verb v))
  let r ← r.settle
  let missing := (Scope.verb v).places.filter fun p ↦ !r.has p
  if missing.isEmpty then return r else .error (.missingPlaces missing)

/-- What comes of asking for help on some words: help, unless one of them is no verb. -/
def readHelp : List String → UsageError
  | [] => .help
  | word :: rest =>
    if (Verb.ofName? word).isSome ∨ word = "help" then
      match rest with
      | [] => .help
      | other :: _ => .unknownVerb other
    else .unknownVerb word

/-- Reads the arguments up to the verb, and those behind it. -/
def readRoot (r : Reading) : List String → Except UsageError (Reading × Option (Verb × Reading))
  | [] => .ok (r, none)
  | argument :: rest =>
    if r.wordsOnly ∨ r.waiting then do
      let r ← r.take .root argument
      readRoot r rest
    else if argument = "help" then .error (readHelp rest)
    else
      match Verb.ofName? argument with
      | some v => do
        let behind ← readVerb v rest
        return (r, some (v, behind))
      | none => do
        let r ← r.take .root argument
        readRoot r rest

/-- Which bytes the arguments behind a verb choose. -/
def inputChoice (r : Reading) : InputChoice where
  path := (r.values .input).headD ""
  raw := r.has .raw
  base := (r.values .base).head?
  sections := r.values .sectionName

/-- What a verb asks with its arguments. -/
def query (v : Verb) (r : Reading) : Query :=
  match v with
  | .header => .header
  | .resolve => .resolve (r.values .names) (r.has .index)
  | .list =>
    .list (r.values .filter).head?
      ((r.values .limit).head?.bind fun value ↦ Numeral.word? 10 value.toList)
  | .lookup => .lookup ((r.values .pc).headD "")
  | .verify => .verify (r.has .strict)

end Reading

/-- The command that arguments hold. Options that may be given in every part count where they are
given last. -/
def Command.read (arguments : List String) : Except UsageError Command := do
  let (before, after) ← (Reading.start .root).readRoot arguments
  let before ← before.settle
  match after with
  | none => if before.given.isEmpty then .error .nothing else .error .missingVerb
  | some (v, behind) =>
    let value (p : Param) : Option String := (behind.values p ++ before.values p).head?
    let has (p : Param) : Bool := behind.has p || before.has p
    return {
      query := behind.query v
      input := behind.inputChoice
      logLevel := (value .logLevel).getD "warn"
      quiet := has .quiet
      noColor := has .noColor
      jsonOutput := has .jsonOutput
      config := value .config }

end FuncMeta
