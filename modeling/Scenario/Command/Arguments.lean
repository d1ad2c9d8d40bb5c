/-! # Arguments of the command line

Options have long names after two dashes and perhaps a letter after one. A value follows its option
as the next argument, behind an equals sign, or right behind the letter. Two dashes alone end the
options. -/

namespace Scenario.Command

/-- An option: its long name with the dashes, its letter, and whether it takes a value. -/
structure Switch where
  long : String
  letter : Option Char
  takesValue : Bool
deriving DecidableEq, Repr

/-- An option that has been given, with its value if it takes one. -/
structure Given where
  switch : Switch
  value : Option String
deriving DecidableEq, Repr

/-- Options in the order in which they were given, and the other arguments. -/
structure Split where
  options : List Given := []
  others : List String := []
deriving DecidableEq, Repr

namespace Split

/-- The value of the last of the options with a long name. -/
def value? (s : Split) (long : String) : Option String :=
  (s.options.reverse.find? (·.switch.long == long)).bind (·.value)

/-- Whether an option has been given. -/
def has (s : Split) (long : String) : Bool := s.options.any (·.switch.long == long)

end Split

/-- Puts a given option in front. -/
def Split.give (g : Given) (s : Split) : Split := { s with options := g :: s.options }

/-- The part of an argument before its first equals sign, and the part after it. -/
def splitEquals (cs : List Char) : List Char × Option (List Char) :=
  match cs.dropWhile (· ≠ '=') with
  | _ :: rest => (cs.takeWhile (· ≠ '='), some rest)
  | [] => (cs, none)

/-- The options that letters behind one dash mean. The last of them may take a value: what is left
of the letters, or nothing as a sign that the next argument is the value. `none` is a letter that
is no option. -/
def letters (switches : List Switch) : List Char → Option (List Given × Option Switch)
  | [] => some ([], none)
  | c :: rest =>
    match switches.find? (·.letter == some c) with
    | none => none
    | some s =>
      if s.takesValue then
        if rest.isEmpty then some ([], some s)
        else some ([⟨s, some (String.ofList rest)⟩], none)
      else (letters switches rest).map fun p => (⟨s, none⟩ :: p.1, p.2)

/-- What one argument that begins with a dash means: options, and perhaps one that waits for its
value. `none` is an argument that is not understood. -/
def meaning (switches : List Switch) (arg : String) : Option (List Given × Option Switch) :=
  let (name, attached) := splitEquals arg.toList
  match switches.find? (·.long == String.ofList name) with
  | some s =>
    match s.takesValue, attached with
    | true, some v => some ([⟨s, some (String.ofList v)⟩], none)
    | true, none => some ([], some s)
    | false, some _ => none
    | false, none => some ([⟨s, none⟩], none)
  | none =>
    match arg.toList with
    | '-' :: '-' :: _ => none
    | _ :: rest => letters switches rest
    | [] => none

/-- Options and other arguments. Unless `mixed`, everything after the first argument that is no
option is left as it is. `none` is an option that is not understood or lacks its value. -/
def split (switches : List Switch) (mixed : Bool) : List String → Option Split
  | [] => some {}
  | arg :: rest =>
    if arg = "--" then some { others := rest }
    else if arg.startsWith "-" ∧ arg ≠ "-" then
      match meaning switches arg with
      | none => none
      | some (given, none) => (split switches mixed rest).map fun s => given.foldr Split.give s
      | some (given, some waiting) =>
        match rest with
        | [] => none
        | v :: rest =>
          (split switches mixed rest).map fun s =>
            given.foldr Split.give (s.give ⟨waiting, some v⟩)
    else if mixed then
      (split switches mixed rest).map fun s => { s with others := arg :: s.others }
    else some { others := arg :: rest }

/-- Asks for help. -/
def helpSwitch : Switch := ⟨"--help", none, false⟩

/-- Asks for the version. -/
def versionSwitch : Switch := ⟨"--version", some 'V', false⟩

/-- The format of the output. -/
def formatSwitch : Switch := ⟨"--format", some 'f', true⟩

/-- The settings file. -/
def configSwitch : Switch := ⟨"--config", some 'c', true⟩

/-- Asks for all records. -/
def verboseSwitch : Switch := ⟨"--verbose", none, false⟩

/-- What is asked of the parse command. -/
structure ParseRequest where
  files : List String
  format : String := "text"
  config : Option String := none
  verbose : Bool := false
deriving DecidableEq, Repr

/-- The arguments that name files, in the order in which they are looked up. -/
def ParseRequest.paths (r : ParseRequest) : List String := r.config.toList ++ r.files

/-- What a command line asks for. -/
inductive Request where
  | parse (r : ParseRequest)
  | grammar
  | version
  | help
  /-- No argument at all. -/
  | nothing
  /-- The arguments are not understood. -/
  | misuse
  /-- The argument that names the settings file holds the character NUL. -/
  | unusablePath
deriving DecidableEq, Repr

/-- Whether a text holds the character NUL, which no path has. -/
def hasNul (s : String) : Bool := s.toList.contains (Char.ofNat 0)

/-- What arguments after `parse` ask for: at least one file is needed. -/
def parseRequest (args : List String) : Request :=
  match split [formatSwitch, configSwitch, verboseSwitch, helpSwitch] true args with
  | none => .misuse
  | some s =>
    let config := s.value? "--config"
    if s.has "--help" then .help
    else if (config.map hasNul).getD false then .unusablePath
    else if s.others.isEmpty then .misuse
    else .parse
      { files := s.others
        format := (s.value? "--format").getD "text"
        config
        verbose := s.has "--verbose" }

/-- What arguments after `grammar` ask for. -/
def grammarRequest (args : List String) : Request :=
  match split [helpSwitch] true args with
  | none => .misuse
  | some s => if s.has "--help" then .help else if s.others.isEmpty then .grammar else .misuse

/-- The options of the program itself. -/
def programSwitches : List Switch := [versionSwitch, helpSwitch]

/-- What the options in front of a command ask for: the first one counts. -/
def optionRequest : List Given → Request
  | [] => .misuse
  | g :: _ => if g.switch = versionSwitch then .version else .help

/-- What a command line asks for: its options, or a command. Where no command stands there may be
options once more, after two dashes. -/
def request (args : List String) : Request :=
  if args.isEmpty then .nothing
  else match split programSwitches false args with
    | none => .misuse
    | some s =>
      if !s.options.isEmpty then optionRequest s.options
      else match s.others with
        | "parse" :: rest => parseRequest rest
        | "grammar" :: rest => grammarRequest rest
        | others => ((split programSwitches false others).map fun t =>
            optionRequest t.options).getD .misuse

end Scenario.Command
