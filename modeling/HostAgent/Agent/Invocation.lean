import HostAgent.Path

/-!
# The command line of the agent

Options come first, each at most once, then a command with its arguments. An option's value is the
rest of its word or the next word, which must not look like an option; what is taken from the next
word is looked at when the next option or the end comes.

* `Invocation.read` -- what a list of words asks for.
-/

namespace HostAgent

/-! ## 1. What can be asked for -/

/-- A command. -/
inductive Verb where
  | apply
  | network
  | partition
  | interfaces
  | deviceSize (device : String)
  deriving DecidableEq, Repr

/-- A command with its options. -/
structure Invocation where
  config : Option Path
  settings : Option Path
  verbose : Bool
  verb : Verb
  deriving DecidableEq, Repr

/-- What a list of words is. -/
inductive Reading where
  | run (i : Invocation)
  /-- a request for help or for the version -/
  | help
  /-- no use of the agent -/
  | misuse
  deriving DecidableEq, Repr

namespace Invocation

/-! ## 2. Options -/

/-- An option with a value. -/
inductive Slot where
  | config
  | settings
  deriving DecidableEq, Repr

/-- The options so far, and one whose value has not been looked at. -/
structure Options where
  config : Option String := none
  settings : Option String := none
  verbose : Bool := false
  pending : Option (Slot × String) := none
  deriving DecidableEq, Repr

namespace Options

/-- The options with a value, which must not be empty nor the second one. -/
def set? (o : Options) (slot : Slot) (value : String) : Option Options :=
  if value.isEmpty then none
  else match slot with
    | .config => if o.config.isSome then none else some { o with config := some value }
    | .settings => if o.settings.isSome then none else some { o with settings := some value }

/-- The options once the pending value has been looked at. -/
def settle? (o : Options) : Option Options :=
  match o.pending with
  | none => some o
  | some (slot, value) => { o with pending := none }.set? slot value

/-- The options with a value that is part of the option's own word. -/
def attach? (o : Options) (slot : Slot) (value : String) : Option Options :=
  o.settle?.bind (·.set? slot value)

/-- The options with a value that is a word of its own. -/
def take? (o : Options) (slot : Slot) (value : String) : Option Options :=
  o.settle?.map fun o => { o with pending := some (slot, value) }

/-- The options with more to say. -/
def verbose? (o : Options) : Option Options :=
  o.settle?.bind fun o => if o.verbose then none else some { o with verbose := true }

end Options

/-- The word cannot be the value of an option nor an argument. -/
def looksLikeOption (word : String) : Bool := Text.hasStart "-" word && word ≠ "-"

/-- The option of a name. -/
def slotOfName? (name : String) : Option Slot :=
  if name = "config" then some .config else if name = "settings" then some .settings else none

/-- The option of a letter. -/
def slotOfLetter? (letter : Char) : Option Slot :=
  if letter = 'c' then some .config else if letter = 's' then some .settings else none

/-- What one word of options gives. -/
inductive Step where
  | goOn (o : Options)
  /-- the value of an option is the next word -/
  | wants (slot : Slot)
  | help
  | misuse

/-- Go on with options, if they are right. -/
def goOn? : Option Options → Step
  | some o => .goOn o
  | none => .misuse

/-- Help, if the options so far are right. -/
def helpAfter (o : Options) : Step :=
  match o.settle? with
  | some _ => .help
  | none => .misuse

/-- A word that starts with two dashes, without them. -/
def longOption (o : Options) (word : List Char) : Step :=
  let name := String.ofList (word.takeWhile (· ≠ '='))
  let value := (word.dropWhile (· ≠ '=')).tail
  let hasValue := word.contains '='
  match slotOfName? name with
  | some slot => if hasValue then goOn? (o.attach? slot (String.ofList value)) else .wants slot
  | none =>
    if hasValue then .misuse
    else if name = "verbose" then goOn? o.verbose?
    else if name = "help" ∨ name = "version" then helpAfter o
    else .misuse

/-- A word of letters that starts with one dash, without it. -/
def shortOptions (o : Options) : List Char → Step
  | [] => .goOn o
  | letter :: rest =>
    match slotOfLetter? letter with
    | some slot =>
      match rest with
      | [] => .wants slot
      | '=' :: value => goOn? (o.attach? slot (String.ofList value))
      | value => goOn? (o.attach? slot (String.ofList value))
    | none =>
      if letter = 'v' then
        match o.verbose? with
        | some o => shortOptions o rest
        | none => .misuse
      else if letter = 'h' ∨ letter = 'V' then helpAfter o
      else .misuse

/-! ## 3. Commands -/

/-- What the arguments of a command give. -/
inductive Arguments where
  | none
  | one (argument : String)
  | help
  | misuse

/-- The argument of a command that takes as many as `room`; after two dashes every word is one. -/
def argumentsOf (room : Nat) (found : Option String) (literal : Bool) : List String → Arguments
  | [] =>
    match found with
    | some argument => .one argument
    | none => .none
  | word :: words =>
    if !literal ∧ word = "--" then argumentsOf room found true words
    else if !literal ∧ looksLikeOption word then
      if word = "--help" ∨ Text.hasStart "-h" word then .help else .misuse
    else
      match room with
      | 0 => .misuse
      | room + 1 => argumentsOf room (some word) literal words

/-- The commands without arguments. -/
def plainVerbs : List (String × Verb) :=
  [("apply", .apply), ("network", .network), ("partition", .partition), ("interfaces", .interfaces)]

/-- The names of all commands. -/
def verbNames : List String := plainVerbs.map Prod.fst ++ ["device-size", "help"]

/-- What is asked for when options and command are known. The environment names a configuration for
    want of one. -/
def complete (environment : Option String) (o : Options) (verb : Verb) : Reading :=
  match o.settle? with
  | none => .misuse
  | some o =>
    match o.config.or environment with
    | some "" => .misuse
    | config =>
      .run ⟨config.map Path.mk, o.settings.map Path.mk, o.verbose, verb⟩

/-- The words of a request for help on a command. -/
def helpReading : List String → Reading
  | [] => .help
  | [name] => if verbNames.contains name then .help else .misuse
  | _ => .misuse

/-- A command and its words. -/
def verbReading (environment : Option String) (o : Options) (name : String) (words : List String) :
    Option Reading :=
  if name = "help" then some (helpReading words)
  else if name = "device-size" then
    some (match argumentsOf 1 none false words with
      | .one device => complete environment o (.deviceSize device)
      | .help => .help
      | _ => .misuse)
  else
    (plainVerbs.lookup name).map fun verb =>
      match argumentsOf 0 none false words with
      | .none => complete environment o verb
      | .help => .help
      | _ => .misuse

/-! ## 4. All words -/

/-- What words ask for, after some options. -/
def readFrom (environment : Option String) (o : Options) : (wanting : Option Slot) → List String →
    Reading
  | _, [] => .misuse
  | some slot, word :: words =>
    if looksLikeOption word then .misuse
    else match o.take? slot word with
      | some o => readFrom environment o none words
      | none => .misuse
  | none, word :: words =>
    match verbReading environment o word words with
    | some reading => reading
    | none =>
      match word.toList with
      | '-' :: '-' :: [] => .misuse
      | '-' :: '-' :: name => afterStep (longOption o name) words
      | '-' :: c :: letters => afterStep (shortOptions o (c :: letters)) words
      | _ => .misuse
where
  /-- What the words after an option ask for. -/
  afterStep (s : Step) (words : List String) : Reading :=
    match s with
    | .goOn o => readFrom environment o none words
    | .wants slot => readFrom environment o (some slot) words
    | .help => .help
    | .misuse => .misuse

/-- What a list of words asks for, where the environment may name a configuration. -/
def read (environment : Option String) (words : List String) : Reading :=
  readFrom environment {} none words

end Invocation

end HostAgent
