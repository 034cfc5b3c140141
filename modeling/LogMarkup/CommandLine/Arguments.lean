import LogMarkup.Text

/-!
# Arguments of the command line

The program lists names, filters lines, or converts lines to JSON, for the given files or for
the standard input. Options stand anywhere after the command that takes them; after two dashes
everything is a file. What does not fit is a usage error (`none`).
-/

namespace LogMarkup.CommandLine

inductive Command where
  | names
  /-- The lines with an argument of one of the names. -/
  | filter (names : List Text)
  | json
  deriving DecidableEq, Repr

structure Invocation where
  command : Command
  strict : Bool
  files : List Text
  deriving DecidableEq, Repr

/-- What the user asks for. -/
inductive Request where
  | version
  | help
  | run (invocation : Invocation)
  deriving DecidableEq, Repr

/-- Is the argument an option, and not a value? A lone dash is a value. -/
def isOption : Text → Bool
  | '-' :: _ :: _ => true
  | _ => false

/-- The texts between commas. -/
def splitCommas (t : Text) : List Text := t.splitOn ','

/-! ## After the command -/

/-- The options and files read so far. -/
structure Draft where
  /-- Whether names are an option, and those read so far. -/
  names : Option (List Text)
  strict : Bool
  files : List Text

namespace Draft

def addNames (draft : Draft) (value : Text) : Draft :=
  { draft with names := draft.names.map (· ++ splitCommas value) }

def addFiles (draft : Draft) (files : List Text) : Draft :=
  { draft with files := draft.files ++ files }

end Draft

/-- Reads the arguments after the command. -/
def readDraft (draft : Draft) : List Text → Option (Draft ⊕ Request)
  | [] => some (.inl draft)
  | arg :: rest =>
    if arg = "--".toList then some (.inl (draft.addFiles rest))
    else if arg = "--help".toList then some (.inr .help)
    else if arg = "--strict".toList then
      if draft.strict then none else readDraft { draft with strict := true } rest
    else if arg = "--name".toList ∨ arg = "-n".toList then
      match rest with
      | [] => none
      | value :: rest =>
        if draft.names.isNone || isOption value then none
        else readDraft (draft.addNames value) rest
    else match arg with
      | '-' :: '-' :: 'n' :: 'a' :: 'm' :: 'e' :: '=' :: value
      | '-' :: 'n' :: '=' :: value
      | '-' :: 'n' :: value =>
        if draft.names.isNone then none else readDraft (draft.addNames value) rest
      | '-' :: 'h' :: _ => some (.inr .help)
      | _ => if isOption arg then none else readDraft (draft.addFiles [arg]) rest

/-- Reads the arguments of a command. A filter needs at least one name, and every file has a
name. -/
def readCommand (strict : Bool) (takesNames : Bool) (command : List Text → Command)
    (args : List Text) : Option Request :=
  match readDraft ⟨if takesNames then some [] else none, false, []⟩ args with
  | none => none
  | some (.inr request) => some request
  | some (.inl draft) =>
    let names := draft.names.getD []
    if takesNames && names.isEmpty || draft.files.contains [] then none
    else some (.run ⟨command names, strict || draft.strict, draft.files⟩)

/-! ## All arguments -/

/-- Reads the arguments up to the command, and those of the command. -/
def readArguments (strict : Bool) : List Text → Option Request
  | [] => none
  | arg :: rest =>
    if arg = "--strict".toList then if strict then none else readArguments true rest
    else if arg = "--version".toList then some .version
    else if arg = "--help".toList ∨ arg = "help".toList then some .help
    else if arg = "names".toList then readCommand strict false (fun _ => .names) rest
    else if arg = "filter".toList then readCommand strict true .filter rest
    else if arg = "json".toList then readCommand strict false (fun _ => .json) rest
    else match arg with
      | '-' :: 'V' :: _ => some .version
      | '-' :: 'h' :: _ => some .help
      | _ => none

/-- Reads the arguments of the program. -/
def Request.ofArguments (args : List Text) : Option Request := readArguments false args

end LogMarkup.CommandLine
