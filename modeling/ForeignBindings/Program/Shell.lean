import ForeignBindings.Program.Lookup

/-!
# Shell scripts

The commands of a shell, how a script spells them, and what they do: words are expanded, tools are
started on what is left of the input, and outputs are led to one another.
-/

namespace ForeignBindings
namespace Program
namespace Shell

/-- A part of a word. -/
inductive Piece where
  | octets (isQuoted : Bool) (content : List Char)
  | parameter (isQuoted : Bool) (name : String)
  deriving DecidableEq, Repr

/-- A word before it is expanded. -/
abbrev Word := List Piece

/-- Where an output leads. -/
inductive Sink where
  | nowhere
  | output
  | errors
  deriving DecidableEq, Repr

/-- A redirection of the output or of the error output. -/
structure Redirection where
  /-- Whether the error output is redirected. -/
  ofErrors : Bool
  /-- Where it leads from now on. -/
  target : Sink
  deriving DecidableEq, Repr

/-- A command. -/
inductive Command where
  /-- Assignments and the words of a program call. -/
  | simple (assignments : List (String × Word)) (words : List Word)
  | redirected (body : Command) (redirections : List Redirection)
  /-- The second one reads what the first one writes. -/
  | piped (first second : Command)
  | sequence (first second : Command)
  /-- The second one after a success of the first. -/
  | both (first second : Command)
  /-- The second one after a failure of the first. -/
  | either (first second : Command)
  | subshell (body : Command)
  | choice (condition positive negative : Command)
  | loop (condition body : Command)
  deriving Repr

/-- A part of a script. -/
inductive Token where
  | word (word : Word)
  /-- A sign between commands; a line ends like a command. -/
  | sign (text : String)
  | redirection (redirection : Redirection)
  deriving DecidableEq, Repr

/-- Whether an octet ends a word unless it is quoted. -/
def endsWord (octet : Char) : Bool := " \t\n;&|<>()".toList.contains octet

/-- Whether a backslash between double quotes quotes an octet. -/
def isEscapable (octet : Char) : Bool := "$\"\\".toList.contains octet

/-- Whether an octet belongs to the name of a variable. -/
def isNamePart (octet : Char) : Bool := octet.isAlphanum || octet == '_'

/-- The name of the parameter behind a dollar sign: one sign or digit, or a name. -/
def parameterName : List Char → List Char
  | octet :: rest =>
      if "@$?0123456789".toList.contains octet then [octet]
      else (octet :: rest).takeWhile isNamePart
  | [] => []

/-- Reads a word up to its end, given the pieces before it, last first; `fuel` bounds the number of
its pieces. -/
def readWord : Nat → Bool → Word → List Char → Option (Word × List Char)
  | 0, _, _, _ => none
  | _, isQuoted, before, [] => if isQuoted then none else some (before.reverse, [])
  | fuel + 1, isQuoted, before, '"' :: rest =>
      readWord fuel (!isQuoted) (.octets true [] :: before) rest
  | fuel + 1, isQuoted, before, '$' :: rest =>
      let name := parameterName rest
      let piece : Piece :=
        if name.isEmpty then .octets isQuoted ['$']
        else .parameter isQuoted (String.ofList name)
      readWord fuel isQuoted (piece :: before) (rest.drop name.length)
  | fuel + 1, isQuoted, before, '\\' :: octet :: rest =>
      let content := if isQuoted && !isEscapable octet then ['\\', octet] else [octet]
      readWord fuel isQuoted (.octets true content :: before) rest
  | fuel + 1, true, before, octet :: rest => readWord fuel true (.octets true [octet] :: before) rest
  | fuel + 1, false, before, octet :: rest =>
      if octet = '\'' then
        let content := rest.takeWhile (· != '\'')
        if content.length = rest.length then none
        else readWord fuel false (.octets true content :: before) (rest.drop (content.length + 1))
      else if endsWord octet then some (before.reverse, octet :: rest)
      else readWord fuel false (.octets false [octet] :: before) rest

/-- The octets of a word without quotes and parameters. -/
def plain? (word : Word) : Option String :=
  let content? : Piece → Option (List Char)
    | .octets false content => some content
    | _ => none
  (word.mapM content?).map fun contents => String.ofList contents.flatten

/-- Reads where a redirection leads: to the other output, or to the device that keeps nothing. -/
def readTarget : List Char → Option (Sink × List Char)
  | '&' :: '1' :: rest => some (.output, rest)
  | '&' :: '2' :: rest => some (.errors, rest)
  | octets => do
      let (word, rest) ←
        readWord (octets.length + 1) false [] (octets.dropWhile (· == ' '))
      if plain? word = some "/dev/null" then some (.nowhere, rest) else none

/-- The parts of a script; `fuel` bounds their number. -/
def tokens : Nat → List Char → Option (List Token)
  | 0, _ => none
  | _, [] => some []
  | fuel + 1, ' ' :: rest | fuel + 1, '\t' :: rest => tokens fuel rest
  | fuel + 1, '&' :: '&' :: rest => (tokens fuel rest).map (.sign "&&" :: ·)
  | fuel + 1, '|' :: '|' :: rest => (tokens fuel rest).map (.sign "||" :: ·)
  | fuel + 1, '\n' :: rest => (tokens fuel rest).map (.sign ";" :: ·)
  | fuel + 1, '2' :: '>' :: rest => do
      let (target, rest) ← readTarget rest
      return .redirection ⟨true, target⟩ :: (← tokens fuel rest)
  | fuel + 1, '1' :: '>' :: rest | fuel + 1, '>' :: rest => do
      let (target, rest) ← readTarget rest
      return .redirection ⟨false, target⟩ :: (← tokens fuel rest)
  | fuel + 1, octet :: rest =>
      if ";|()".toList.contains octet then (tokens fuel rest).map (.sign octet.toString :: ·)
      else if endsWord octet then none
      else do
        let (word, rest) ← readWord (rest.length + 2) false [] (octet :: rest)
        return .word word :: (← tokens fuel rest)

/-- Reads a part of a script from its tokens. -/
abbrev Reader := StateT (List Token) Option

namespace Reader

/-- Whether a sign comes next, which is taken then. -/
def takeSign (sign : String) : Reader Bool := do
  match ← get with
  | .sign other :: rest =>
      if other = sign then
        set rest
        return true
      else return false
  | _ => return false

/-- Whether a reserved word comes next, which is taken then. -/
def takeWord (reserved : String) : Reader Bool := do
  match ← get with
  | .word word :: rest =>
      if plain? word = some reserved then
        set rest
        return true
      else return false
  | _ => return false

/-- Goes on only if something has been taken. -/
def expect (taken : Reader Bool) : Reader Unit := do
  if ← taken then return else failure

/-- The words that end a script within a command. -/
def closingWords : List String := ["then", "else", "fi", "do", "done"]

/-- Whether the script at hand ends here. -/
def atEnd : Reader Bool := do
  match ← get with
  | [] | .sign ")" :: _ => return true
  | .word word :: _ => return ((plain? word).map closingWords.contains).getD false
  | _ => return false

/-- The assignment that a word spells. -/
def assignment? (word : Word) : Option (String × Word) := do
  let pieces := word.takeWhile fun
    | Piece.octets false [octet] => isNamePart octet
    | _ => false
  let name ← plain? pieces
  if name.isEmpty || name.toList.head?.any Char.isDigit then none
  else
    match word.drop pieces.length with
    | Piece.octets false ['='] :: value => some (name, value)
    | _ => none

/-- Reads the words and the redirections of a simple command; `fuel` bounds their number. -/
def simple : Nat → List Word → List Redirection → Reader Command
  | 0, _, _ => failure
  | fuel + 1, words, redirections => do
      match ← get with
      | .word word :: rest =>
          set rest
          simple fuel (words ++ [word]) redirections
      | .redirection redirection :: rest =>
          set rest
          simple fuel words (redirections ++ [redirection])
      | _ =>
          if words.isEmpty && redirections.isEmpty then failure
          let assigned := words.takeWhile fun word => (assignment? word).isSome
          let command : Command :=
            .simple (assigned.filterMap assignment?) (words.drop assigned.length)
          return if redirections.isEmpty then command else .redirected command redirections

/-- Reads a command, given how the scripts within it are read. -/
def command (script : Reader Command) : Reader Command := do
  if ← takeSign "(" then
    let body ← script
    expect (takeSign ")")
    return .subshell body
  else if ← takeWord "if" then
    let condition ← script
    expect (takeWord "then")
    let positive ← script
    let negative ← if ← takeWord "else" then script else pure (.simple [] [])
    expect (takeWord "fi")
    return .choice condition positive negative
  else if ← takeWord "while" then
    let condition ← script
    expect (takeWord "do")
    let body ← script
    expect (takeWord "done")
    return .loop condition body
  else simple ((← get).length + 1) [] []

/-- Reads commands with pipes between them; `fuel` bounds their number. -/
def pipeline (script : Reader Command) : Nat → Reader Command
  | 0 => failure
  | fuel + 1 => do
      let first ← command script
      if ← takeSign "|" then return .piped first (← pipeline script fuel) else return first

/-- Reads what depends on the success of the command before; `fuel` bounds the number of
commands. -/
def conditional (script : Reader Command) : Nat → Command → Reader Command
  | 0, _ => failure
  | fuel + 1, first => do
      if ← takeSign "&&" then conditional script fuel (.both first (← pipeline script fuel))
      else if ← takeSign "||" then
        conditional script fuel (.either first (← pipeline script fuel))
      else return first

/-- Reads a script up to its end; `fuel` bounds the number of commands. -/
def script : Nat → Reader Command
  | 0 => failure
  | fuel + 1 => do
      let first ← conditional (script fuel) fuel (← pipeline (script fuel) fuel)
      if ← takeSign ";" then
        if ← atEnd then return first else return .sequence first (← script fuel)
      else if ← atEnd then return first
      else failure

end Reader

/-- The command that a script spells. -/
def read? (octets : List Char) : Option Command := do
  let tokens ← tokens (octets.length + 1) octets
  if tokens.isEmpty then return .simple [] []
  let (command, rest) ← (Reader.script (2 * tokens.length + 2)).run tokens
  if rest.isEmpty then return command else none

/-- What a shell knows and has done. -/
structure State where
  /-- The variables and their values; the first value counts. -/
  environment : List (String × String)
  /-- The arguments; the first one is the name of the script. -/
  arguments : List String
  /-- How the last command has ended. -/
  status : Nat
  /-- What can be read. -/
  input : List Char
  /-- What was written to the output. -/
  output : List Char
  /-- What was written to the error output. -/
  errors : List Char

/-- What a shell does; an ending is the shell's own. -/
abbrev Action := ExceptT Ending (StateM State)

/-- The number by which a shell names itself. -/
def processNumber : String := "2"

namespace State

/-- The value of a parameter; a missing one is empty. -/
def parameter (state : State) (name : String) : String :=
  match name.toNat? with
  | some index => state.arguments.getD index ""
  | none =>
      if name = "$" then processNumber
      else if name = "?" then String.ofList (Nat.toDigits 10 state.status)
      else (state.environment.lookup name).getD ""

/-- Puts octets at the end of the last of some words; there is a word then. -/
def extend (words : List String) (octets : List Char) : List String :=
  words.dropLast ++ [words.getLast?.getD "" ++ String.ofList octets]

/-- The words that a piece adds to those before it. -/
def expandPiece (state : State) (words : List String) : Piece → List String
  | .octets _ content => extend words content
  | .parameter true "@" =>
      match state.arguments.tail with
      | [] => words
      | first :: rest => extend words first.toList ++ rest
  | .parameter true name => extend words (state.parameter name).toList
  | .parameter false name =>
      let value :=
        if name = "@" then " ".intercalate state.arguments.tail else state.parameter name
      match (value.toList.splitOnP Octets.isSpace).filter (!·.isEmpty) with
      | [] => words
      | first :: rest => extend words first ++ rest.map String.ofList

/-- The words that a word stands for. -/
def expand (state : State) (word : Word) : List String :=
  word.foldl state.expandPiece []

/-- The value of a word that stays one word. -/
def value (state : State) (word : Word) : String := " ".intercalate (state.expand word)

/-- Adds what was written. -/
def write (state : State) (output errors : List Char) : State :=
  { state with output := state.output ++ output, errors := state.errors ++ errors }

end State

/-- Leaves the number of a command behind. -/
def leaveStatus (status : Nat) : Action Unit := modify ({ · with status })

/-- Does something and undoes it in the variables and the arguments; an ending ends it alone. -/
def isolated (action : Action Unit) : Action Unit := do
  let before ← get
  let (result, after) := (action.run).run before
  let status :=
    match result with
    | .ok () => after.status
    | .error ending => ending.number
  set { before with
    status, input := after.input, output := after.output, errors := after.errors }

/-- Where the two outputs lead after redirections, one after another. -/
def sinks (redirections : List Redirection) : Sink × Sink :=
  redirections.foldl (fun (first, second) redirection =>
    let target :=
      match redirection.target with
      | .nowhere => .nowhere
      | .output => first
      | .errors => second
    if redirection.ofErrors then (first, target) else (target, second)) (.output, .errors)

/-- Does something with its outputs led elsewhere. -/
def redirecting (redirections : List Redirection) (action : Action Unit) : Action Unit := do
  let before ← get
  let (result, after) := (action.run).run { before with output := [], errors := [] }
  let (first, second) := sinks redirections
  let written (target : Sink) : List Char :=
    (if first = target then after.output else []) ++ if second = target then after.errors else []
  set ({ after with output := before.output, errors := before.errors }.write
    (written .output) (written .errors))
  match result with
  | .ok () => return
  | .error ending => throw ending

/-- Repeats a body while a condition succeeds; `rounds` bounds how often. -/
def repeating (condition body : Action Unit) : Nat → Action Unit
  | 0 => return
  | rounds + 1 => do
      condition
      if (← get).status = 0 then
        body
        repeating condition body rounds
      else leaveStatus 0

/-- Starts a tool on what is left of the input, and tells how it has ended. -/
def start (tools : Lookup) (assigned : List (String × String)) (name : String)
    (arguments : List String) : Action Ending := do
  let state ← get
  match tools (Octets.toText name) with
  | .ok tool =>
      let effect := tool ⟨arguments, assigned ++ state.environment, state.input⟩
      set { state.write effect.output effect.errors with input := effect.unread }
      return effect.ending
  | .error cause =>
      let complaint := state.parameter "0" ++ ": 1: " ++ name ++
        (if cause = .permissionDenied then ": Permission denied\n" else ": not found\n")
      set (state.write [] complaint.toList)
      return .exited (if cause = .permissionDenied then 126 else 127)

/-- The values that the words of a line give to variables, the last of which takes what is left. -/
def lineValues (isSeparator : Char → Bool) : List String → List Char → List (String × String)
  | [], _ => []
  | [name], octets => [(name, String.ofList (octets.reverse.dropWhile isSeparator).reverse)]
  | name :: names, octets =>
      let word := octets.takeWhile fun octet => !isSeparator octet
      (name, String.ofList word) ::
        lineValues isSeparator names ((octets.drop word.length).dropWhile isSeparator)

/-- Reads a line into variables. -/
def readInto (separators : String) (names : List String) : Action Unit := do
  let state ← get
  let line := state.input.takeWhile (· != '\n')
  let isSeparator (octet : Char) : Bool := separators.toList.contains octet
  set { state with
    environment := lineValues isSeparator names (line.dropWhile isSeparator) ++ state.environment
    input := state.input.drop (line.length + 1)
    status := if line.length < state.input.length then 0 else 1 }

/-- The signal that a word of a `kill` command spells. -/
def signal? (word : String) : Option Nat :=
  match word.toList with
  | '-' :: name =>
      let name := String.ofList name
      if name.toNat?.isSome then name.toNat? else Signal.ofName? name
  | _ => none

/-- Sends a signal; the shell can send one to itself only. -/
def kill (arguments : List String) : Action Unit := do
  let (signal, targets) :=
    match arguments with
    | word :: targets =>
        match signal? word with
        | some signal => (signal, targets)
        | none => (Signal.termination, arguments)
    | [] => (Signal.termination, [])
  if targets != [processNumber] then leaveStatus 1
  else if Signal.isFatal signal then throw (.killed signal)
  else leaveStatus 0

/-- Does what the words of a simple command say. -/
def call (tools : Lookup) (assigned : List (String × String)) : List String → Action Unit
  | [] => modify fun state =>
      { state with environment := assigned ++ state.environment, status := 0 }
  | "exit" :: arguments => do
      let status := (arguments.head?.bind String.toNat?).getD (← get).status
      throw (.exited (status % 256))
  | "kill" :: arguments => kill arguments
  | "read" :: arguments => do
      let separators :=
        (assigned.lookup "IFS").getD (((← get).environment.lookup "IFS").getD " \t\n")
      readInto separators (arguments.filter (· != "-r"))
  | "exec" :: name :: arguments => do throw (← start tools assigned name arguments)
  | name :: arguments => do leaveStatus (← start tools assigned name arguments).number

/-- Runs a command; `rounds` bounds the repetitions of its loops. -/
def run (tools : Lookup) (rounds : Nat) : Command → Action Unit
  | .simple assignments words => do
      let state ← get
      call tools (assignments.map fun (name, word) => (name, state.value word))
        (words.flatMap state.expand)
  | .redirected body redirections => redirecting redirections (run tools rounds body)
  | .piped first second => do
      let before ← get
      set { before with output := [] }
      isolated (run tools rounds first)
      let between ← get
      set { between with input := between.output, output := before.output }
      isolated (run tools rounds second)
      modify ({ · with input := between.input })
  | .sequence first second => do
      run tools rounds first
      run tools rounds second
  | .both first second => do
      run tools rounds first
      if (← get).status = 0 then run tools rounds second
  | .either first second => do
      run tools rounds first
      if (← get).status != 0 then run tools rounds second
  | .subshell body => isolated (run tools rounds body)
  | .choice condition positive negative => do
      run tools rounds condition
      if (← get).status = 0 then run tools rounds positive else run tools rounds negative
  | .loop condition body => repeating (run tools rounds condition) (run tools rounds body) rounds

/-- The shell on a script that is its argument. -/
def tool (tools : Lookup) : Tool := fun call =>
  match call.arguments with
  | "-c" :: script :: arguments =>
      match read? script.toList with
      | some command =>
          let arguments := if arguments.isEmpty then ["sh"] else arguments
          let (result, state) := ((run tools (call.input.length + 1) command).run).run
            ⟨call.environment, arguments, 0, call.input, [], []⟩
          let ending :=
            match result with
            | .ok () => .exited state.status
            | .error ending => ending
          ⟨ending, state.output, state.errors, state.input⟩
      | none => Tool.refusing "sh: 1: Syntax error" call
  | _ => Tool.refusing "sh: unknown arguments" call

end Shell
end Program
end ForeignBindings
