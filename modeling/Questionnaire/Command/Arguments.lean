/-!
# Arguments of the command line

The command line names a verb, what the verb is about, and options. Options of the store may stand
before or after the verb, and count after it if they are given on both sides; on one side none may
be given twice. An option takes the next word that does not begin with a dash, or what follows an
equals sign. After a bare double dash, every word says what the verb is about.

Words are judged in order, and the first that is unfit or asks for help decides. Only a word right
before the verb that is the value of an option is judged last of all, so that help is given in spite
of it.
-/

namespace Questionnaire

/-- What the command line can be asked to do. -/
inductive Verb where
  /-- Check a graph in a file. -/
  | validate
  /-- Show the progress of an assignment. -/
  | progress
  /-- Show the coverage of filing labels by an assignment. -/
  | coverage
  /-- Load the store. -/
  | migrate
  /-- Clean the titles in the store. -/
  | normalizeTitles
deriving DecidableEq, Repr

namespace Verb

/-- Every verb, in the order of the help. -/
def all : List Verb :=
  [validate, progress, coverage, migrate, normalizeTitles]

/-- The word for the verb. -/
def name : Verb → String
  | validate => "validate"
  | progress => "progress"
  | coverage => "coverage"
  | migrate => "migrate"
  | normalizeTitles => "normalize-titles"

/-- The word for what the verb is about, if it is about anything. -/
def subject? : Verb → Option String
  | validate => some "graph"
  | progress | coverage => some "assignment"
  | migrate | normalizeTitles => none

/-- The verb of a word. -/
def ofName? (word : String) : Option Verb :=
  all.find? fun verb => verb.name == word

end Verb

/-- A part of the command line that help can be given on. -/
inductive HelpTopic where
  /-- The program. -/
  | program
  /-- The help itself. -/
  | help
  /-- A verb. -/
  | verb (verb : Verb)
deriving DecidableEq, Repr

/-- Why nothing is done, although the command line was read. -/
inductive Digression where
  /-- The command line makes no sense. -/
  | misuse
  /-- Help is asked for. -/
  | help (topic : HelpTopic)
  /-- The version of the program is asked for. -/
  | version
deriving DecidableEq, Repr

/-- What a word of the command line looks like. -/
inductive Word where
  /-- The bare double dash. -/
  | escape
  /-- An option, with the value that is attached to it. -/
  | long (name : String) (attached : Option String)
  /-- One dash with letters. -/
  | short (letters : List Char)
  /-- Anything else. -/
  | plain (text : String)
deriving DecidableEq, Repr

/-- What a text on the command line looks like. -/
def Word.ofText (text : String) : Word :=
  match text.toList with
  | ['-', '-'] => escape
  | '-' :: '-' :: chars =>
    let name := String.ofList (chars.takeWhile fun char => char != '=')
    match chars.dropWhile fun char => char != '=' with
    | [] => long name none
    | _ :: value => long name (some (String.ofList value))
  | '-' :: char :: chars => short (char :: chars)
  | _ => plain text

/-- What one side of the verb gives. -/
structure Options where
  /-- The folder of the store. -/
  folder : Option String := none
  /-- The scope of the store. -/
  scope : Option String := none
  /-- Whether logs are to be written as JSON. -/
  logsJson : Bool := false
  /-- The limit on workflow nodes. -/
  nodeLimit : Option Nat := none
  /-- What the verb is about. -/
  subject : Option String := none
deriving DecidableEq, Repr

/-- A whole number of 64 bits in decimal digits; a plus sign may stand in front. -/
def readLimit? (text : String) : Option Nat :=
  let digits :=
    match text.toList with
    | '+' :: rest => rest
    | chars => chars
  if digits.isEmpty || !digits.all Char.isDigit then none
  else
    let value := digits.foldl (fun value digit => 10 * value + (digit.toNat - 0x30)) 0
    if value < UInt64.size then some value else none

namespace Options

/-- The options with one more that has a value, unless it is unknown, given before or unfit. -/
def setValue? (options : Options) (verb : Option Verb) (name value : String) : Option Options :=
  match name with
  | "store" =>
    if options.folder.isSome || value.isEmpty then none
    else some { options with folder := some value }
  | "scope" => if options.scope.isSome then none else some { options with scope := some value }
  | "max-nodes" =>
    if verb ≠ some .validate || options.nodeLimit.isSome then none
    else (readLimit? value).map fun limit => { options with nodeLimit := some limit }
  | _ => none

/-- The options with what the verb is about, unless that is nothing or was given before. -/
def setSubject? (options : Options) (verb : Verb) (text : String) : Option Options :=
  if verb.subject?.isNone || options.subject.isSome then none
  else if verb = .validate && text.isEmpty then none
  else some { options with subject := some text }

/-- The options with what every word says that the verb is about. -/
def setSubjects (options : Options) (verb : Option Verb) (texts : List String) :
    Except Digression Options :=
  match verb with
  | none => .error .misuse
  | some verb =>
    match texts.foldlM (fun options text => options.setSubject? verb text) options with
    | some options => .ok options
    | none => .error .misuse

/-- What is meant by an option without a value, if there is one of the name. -/
def setFlag (options : Options) (verb : Option Verb) (name : String) : Except Digression Options :=
  match name with
  | "help" => .error (.help ((verb.map HelpTopic.verb).getD .program))
  | "version" => .error (if verb.isNone then .version else .misuse)
  | "log-json" => if options.logsJson then .error .misuse else .ok { options with logsJson := true }
  | _ => .error .misuse

/-- What is meant by letters after one dash; only the first letter counts. -/
def setLetters (options : Options) (verb : Option Verb) : List Char → Except Digression Options
  | 'h' :: _ => options.setFlag verb "help"
  | 'V' :: _ => options.setFlag verb "version"
  | _ => .error .misuse

/-- Whether there is an option of a name that takes a value. -/
def takesValue (verb : Option Verb) (name : String) : Bool :=
  name == "store" || name == "scope" || name == "max-nodes" && verb == some .validate

end Options

/-- What was read on one side of the verb. -/
structure Side where
  /-- The options, without the last one if it is still to be set. -/
  options : Options
  /-- The option right before the verb that takes its value from a word, with that word. -/
  last : Option (String × String) := none
  /-- The words from the verb on. -/
  rest : List String := []
deriving DecidableEq, Repr

namespace Side

/-- Whether the next word is a plain one. -/
def startsPlain : List String → Bool
  | [] => false
  | text :: _ => Word.ofText text == .plain text

/-- Reads the words on one side of the verb, up to the verb if it is still to come. -/
def read (verb : Option Verb) (options : Options) : List String → Except Digression Side
  | [] => .ok { options }
  | text :: rest =>
    match Word.ofText text with
    | .escape => return { options := ← options.setSubjects verb rest }
    | .short letters => do read verb (← options.setLetters verb letters) rest
    | .long name (some value) =>
      match options.setValue? verb name value with
      | some options => read verb options rest
      | none => .error .misuse
    | .long name none =>
      if Options.takesValue verb name then
        match rest with
        | [] => .error .misuse
        | value :: rest =>
          if Word.ofText value ≠ .plain value then .error .misuse
          else if verb.isNone && startsPlain rest then .ok { options, last := (name, value), rest }
          else
            match options.setValue? verb name value with
            | some options => read verb options rest
            | none => .error .misuse
      else do read verb (← options.setFlag verb name) rest
    | .plain text =>
      match verb with
      | none => .ok { options, rest := text :: rest }
      | some subjectVerb =>
        match options.setSubject? subjectVerb text with
        | some options => read verb options rest
        | none => .error .misuse

/-- The options before the verb, with the last one. -/
def finish (side : Side) : Except Digression Options :=
  match side.last with
  | none => .ok side.options
  | some (name, value) =>
    match side.options.setValue? none name value with
    | some options => .ok options
    | none => .error .misuse

end Side

/-- What the command line asks for. -/
structure Invocation where
  /-- The verb. -/
  verb : Verb
  /-- What the verb is about; empty if it is about nothing. -/
  subject : String
  /-- The folder of the store. -/
  folder : String
  /-- The scope of the store. -/
  scope : String
  /-- The limit on workflow nodes, if it is given. -/
  nodeLimit : Option Nat
deriving DecidableEq, Repr

namespace Invocation

/-- What a verb with options on both sides asks for, unless what it is about is left out. -/
def ofOptions (verb : Verb) (outer inner : Options) : Except Digression Invocation :=
  if verb.subject?.isSome && inner.subject.isNone then .error .misuse
  else
    .ok
      { verb
        subject := inner.subject.getD ""
        folder := (inner.folder <|> outer.folder).getD ".docket"
        scope := (inner.scope <|> outer.scope).getD "gbi"
        nodeLimit := inner.nodeLimit }

/-- The topic that the words after the word for help name. -/
def helpTopic : List String → Digression
  | [] => .help .program
  | ["help"] => .help .help
  | [word] =>
    match Verb.ofName? word with
    | some verb => .help (.verb verb)
    | none => .misuse
  | _ => .misuse

/-- Reads the words of a command line. -/
def read (words : List String) : Except Digression Invocation := do
  let outer ← Side.read none {} words
  match outer.rest with
  | [] => throw .misuse
  | word :: rest =>
    if word = "help" then throw (helpTopic rest)
    match Verb.ofName? word with
    | none => throw .misuse
    | some verb =>
      let inner ← Side.read (some verb) {} rest
      ofOptions verb (← outer.finish) inner.options

end Invocation

end Questionnaire
