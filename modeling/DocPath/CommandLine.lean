import DocPath.Flat
import DocPath.Query

/-!
# The command line

A command line is options, one command, and its operands; options may stand anywhere before `--`.
`CommandLine.parse` reads one or rejects it, `Command.run` gives the value to print, and
`CommandLine.execute` everything that the outside sees: exit code and texts.
-/

namespace DocPath.CommandLine

/-- What a command line asks for. -/
inductive Command
  | find (json : String) (paths : List String) (first unique : Bool) (default : Option String)
      (join : Bool)
  | set (json path value : String)
  | bridge (json path value : String)
  | delete (json : String) (paths : List String)
  | copy (json source target : String) (all : Bool)
  | move (json source target : String) (all : Bool)
  | squish (json : String)
  | expand (json : String)

/-! ### Reading -/

/-- The options of a command besides the common ones: those that stand alone, and those with a
value. -/
structure Options where
  flags : List String
  valued : List String

/-- The words of a command line, sorted. -/
structure Words where
  operands : List String
  flags : List String
  values : List (String × String)

/-- A word that is an option, or looks like one. -/
def looksLikeOption (word : String) : Bool :=
  match word.toList with
  | '-' :: _ :: _ => true
  | _ => false

/-- The name of a long option, and its value after an equals sign. -/
def splitLong (text : List Char) : String × Option String :=
  let name := text.takeWhile (· != '=')
  let value := match text.dropWhile (· != '=') with
    | _ :: value => some (String.ofList value)
    | [] => none
  (String.ofList name, value)

/-- What an option word says. -/
inductive OptionWord
  /-- The option of more messages, which may be repeated. -/
  | verbose
  | flag (name : String)
  | value (name value : String)
  /-- A value has to follow in the next word. -/
  | pending (name : String)
  | unknown

/-- The meaning of an option word, without its first hyphen. -/
def Options.meaning (o : Options) (text : List Char) : OptionWord :=
  match text with
  | '-' :: long =>
    match splitLong long with
    | ("verbose", none) => .verbose
    | (name, none) =>
      if o.flags.contains name then .flag name
      else if o.valued.contains name then .pending name
      else .unknown
    | (name, some value) => if o.valued.contains name then .value name value else .unknown
  | short => if short.all (· == 'v') then .verbose else .unknown

/-- Sorts words. An option other than `-v` may come once, and a word that looks like an option is
no value of one. -/
def sortWords (o : Options) (sorted : Words) : List String → Option Words
  | [] => some sorted
  | word :: rest =>
    if word = "--" then some { sorted with operands := sorted.operands ++ rest }
    else if looksLikeOption word then
      match o.meaning (word.toList.drop 1) with
      | .verbose => sortWords o sorted rest
      | .flag name =>
        if sorted.flags.contains name then none
        else sortWords o { sorted with flags := name :: sorted.flags } rest
      | .value name value =>
        if (sorted.values.lookup name).isSome then none
        else sortWords o { sorted with values := (name, value) :: sorted.values } rest
      | .pending name =>
        match rest with
        | value :: rest =>
          if looksLikeOption value || (sorted.values.lookup name).isSome then none
          else sortWords o { sorted with values := (name, value) :: sorted.values } rest
        | [] => none
      | .unknown => none
    else sortWords o { sorted with operands := sorted.operands ++ [word] } rest

/-- The options of a command, by its name. -/
def optionsOf? : String → Option Options
  | "find" => some ⟨["first", "unique", "join"], ["default"]⟩
  | "set" => some ⟨[], []⟩
  | "bridge" => some ⟨[], []⟩
  | "delete" => some ⟨[], []⟩
  | "copy" => some ⟨["all"], []⟩
  | "move" => some ⟨["all"], []⟩
  | "squish" => some ⟨[], []⟩
  | "expand" => some ⟨[], []⟩
  | _ => none

/-- The command of a name with its words. -/
def command? (name : String) (w : Words) : Option Command :=
  let has (flag : String) : Bool := w.flags.contains flag
  match name, w.operands with
  | "find", json :: path :: paths =>
    some (.find json (path :: paths) (has "first") (has "unique") (w.values.lookup "default")
      (has "join"))
  | "set", [json, path, value] => some (.set json path value)
  | "bridge", [json, path, value] => some (.bridge json path value)
  | "delete", json :: path :: paths => some (.delete json (path :: paths))
  | "copy", [json, source, target] => some (.copy json source target (has "all"))
  | "move", [json, source, target] => some (.move json source target (has "all"))
  | "squish", [json] => some (.squish json)
  | "expand", [json] => some (.expand json)
  | _, _ => none

/-- The command that a command line asks for. Before the command only `-v` may stand. -/
def parse : List String → Option Command
  | [] => none
  | word :: rest =>
    if looksLikeOption word then
      match (⟨[], []⟩ : Options).meaning (word.toList.drop 1) with
      | .verbose => parse rest
      | _ => none
    else do
      let options ← optionsOf? word
      command? word (← sortWords options ⟨[], [], []⟩ rest)

/-! ### Running -/

/-- Why a command has nothing to print. -/
inductive Failure
  | unreadable
  | path (e : PathError)
  | notAnObject (v : Json)

/-- The text of a failure. It ends its line, unless it breaks off where an explanation of unreadable
JSON or of a refused pattern would stand. -/
def Failure.text : Failure → String
  | unreadable => "invalid json"
  | path (.pattern source .malformed) => (PathError.pattern source .malformed).message
  | path e => e.message ++ "\n"
  | notAnObject v => "expand needs an object, got " ++ v.compact ++ "\n"

/-- The document that an operand gives: its own text, or the standard input for a lone hyphen. -/
def document (input operand : String) : Except Failure Json :=
  match Json.read? (if operand = "-" then input else operand) with
  | some v => .ok v
  | none => .error .unreadable

/-- The result of a change. -/
def changed {α : Type} (outcome : Except PathError α × Json) : Except Failure Json :=
  match outcome with
  | (.ok _, v) => .ok v
  | (.error e, _) => .error (.path e)

/-- Matches as they are to be printed: repetitions dropped if asked, then only the first one kept if
asked, and the default last, where nothing is left. -/
def refine (values : List Json) (first unique : Bool) (default : Option String) : List Json :=
  let values := if unique then Json.unique values else values
  let values := if first then [Query.first values] else values
  match default with
  | some text => Query.orDefault values text
  | none => values

/-- The value that a command prints. -/
def Command.run (input : String) : Command → Except Failure Json
  | .find json paths first unique default join => do
    let v ← document input json
    if join then
      match Query.findJoin v paths with
      | .ok rows => return .array (rows.map .array)
      | .error e => throw (.path e)
    else
      match Query.findMulti v paths with
      | .ok columns => return .array (refine columns.flatten first unique default)
      | .error e => throw (.path e)
  | .set json path value => do
    changed (Query.set (← document input json) [(path, Json.readOrText value)])
  | .bridge json path value => do
    changed (Query.bridge (← document input json) [(path, Json.readOrText value)])
  | .delete json paths => do changed (Query.delete (← document input json) paths)
  | .copy json source target all => do
    let change := if all then Query.copyAll else Query.copy
    changed (change (← document input json) [(source, target)])
  | .move json source target all => do
    let change := if all then Query.moveAll else Query.move
    changed (change (← document input json) [(source, target)])
  | .squish json => do return .object (Flat.squish (← document input json))
  | .expand json => do
    match ← document input json with
    | .object flat =>
      match Flat.expand flat with
      | .ok v => return v
      | .error e => throw (.path e)
    | v => throw (.notAnObject v)

/-- What the outside sees of a command line. -/
structure Outcome where
  exit : Nat
  output : String
  errors : String

/-- Runs a command line on a standard input. A rejected command line has the exit code 2 and a
failure the exit code 1. -/
def execute (args : List String) (input : String) : Outcome :=
  match parse args with
  | none => ⟨2, "", ""⟩
  | some command =>
    match command.run input with
    | .ok v => ⟨0, v.pretty ++ "\n", ""⟩
    | .error e => ⟨1, "", e.text⟩

/-- Whether a command takes its document from the standard input. -/
def readsInput (args : List String) : Bool :=
  match parse args with
  | some (.find json ..) => json == "-"
  | some (.set json ..) => json == "-"
  | some (.bridge json ..) => json == "-"
  | some (.delete json ..) => json == "-"
  | some (.copy json ..) => json == "-"
  | some (.move json ..) => json == "-"
  | some (.squish json) => json == "-"
  | some (.expand json) => json == "-"
  | none => false

end DocPath.CommandLine
