import HostAgent.Host

/-!
# A few programs

The programs that a tree of files can hold: the truth values, the two that print, the one that copies
files to its output, and a small shell. A shell script is a list of simple commands with words,
quotes, parameters and redirections between the standard streams; it has no control structure.

* `Program.run` -- what a program writes and how it ends.
-/

namespace HostAgent.Shell

/-! ## 1. Processes -/

/-- How a process ends. -/
inductive Exit where
  | code (n : Nat)
  | signal
  deriving DecidableEq, Repr

/-- The status that is reported; a process that a signal ends has none. -/
def Exit.status : Exit → Int
  | .code n => n
  | .signal => -1

/-- What a process has written so far. -/
structure Streams where
  stdout : Bytes := []
  stderr : Bytes := []
  deriving DecidableEq, Repr

/-- What a process has written, and how it ended. -/
structure Ended where
  streams : Streams
  exit : Exit
  deriving DecidableEq, Repr

/-- Where a stream of a command goes. -/
inductive Sink where
  | stdout
  | stderr
  | nowhere
  deriving DecidableEq, Repr

/-- More bytes in a sink. -/
def Streams.put (s : Streams) (sink : Sink) (bytes : Bytes) : Streams :=
  match sink with
  | .stdout => { s with stdout := s.stdout ++ bytes }
  | .stderr => { s with stderr := s.stderr ++ bytes }
  | .nowhere => s

/-! ## 2. Escapes -/

/-- Up to `room` octal digits after a value, and the rest. -/
def octal (value : Nat) : (room : Nat) → List Char → Nat × List Char
  | 0, t => (value, t)
  | _, [] => (value, [])
  | room + 1, c :: t =>
    if '0' ≤ c ∧ c ≤ '7' then octal (8 * value + (c.toNat - '0'.toNat)) room t else (value, c :: t)

/-- The byte of a letter after a backslash. -/
def escapeByte? : Char → Option UInt8
  | 'a' => some 7
  | 'b' => some 8
  | 'f' => some 12
  | 'n' => some 10
  | 'r' => some 13
  | 't' => some 9
  | 'v' => some 11
  | '\\' => some 92
  | _ => none

/-- The bytes of a text in which backslashes escape, for at most `fuel` characters; an octal escape
    starts with a zero when `needsZero` says so. -/
def unescape (needsZero : Bool) : (fuel : Nat) → List Char → Bytes
  | 0, _ => []
  | _, [] => []
  | fuel + 1, '\\' :: c :: t =>
    if needsZero ∧ c = '0' then
      let (n, rest) := octal 0 3 t
      UInt8.ofNat n :: unescape needsZero fuel rest
    else if !needsZero ∧ '0' ≤ c ∧ c ≤ '7' then
      let (n, rest) := octal 0 3 (c :: t)
      UInt8.ofNat n :: unescape needsZero fuel rest
    else match escapeByte? c with
      | some b => b :: unescape needsZero fuel t
      | none => 92 :: String.utf8EncodeChar c ++ unescape needsZero fuel t
  | fuel + 1, c :: t => String.utf8EncodeChar c ++ unescape needsZero fuel t

/-- The bytes of a whole text in which backslashes escape. -/
def unescaped (needsZero : Bool) (t : List Char) : Bytes := unescape needsZero (t.length + 1) t

/-! ## 3. Printing -/

/-- The arguments on one line; a first argument `-n` leaves the line open. -/
def echo (escapes : Bool) (args : List String) : Bytes :=
  let text (words : List String) : Bytes :=
    let t := (Text.join " " words).toList
    if escapes then unescaped true t else Utf8.encode (String.ofList t)
  match args with
  | "-n" :: words => text words
  | words => text words ++ [10]

/-- One use of a format, and the arguments that it leaves. -/
def formatOnce : (fuel : Nat) → List Char → List String → Bytes × List String
  | 0, _, args => ([], args)
  | _, [], args => ([], args)
  | fuel + 1, '%' :: '%' :: t, args =>
    let (bytes, rest) := formatOnce fuel t args
    (37 :: bytes, rest)
  | fuel + 1, '%' :: 's' :: t, args =>
    let (bytes, rest) := formatOnce fuel t args.tail
    (Utf8.encode (args.headD "") ++ bytes, rest)
  | fuel + 1, '%' :: 'd' :: t, args =>
    let (bytes, rest) := formatOnce fuel t args.tail
    let n := ((args.headD "").toInt?).getD 0
    (Utf8.encode (Decimal.signedText n) ++ bytes, rest)
  | fuel + 1, '\\' :: c :: t, args =>
    if '0' ≤ c ∧ c ≤ '7' then
      let (n, more) := octal 0 3 (c :: t)
      let (bytes, rest) := formatOnce fuel more args
      (UInt8.ofNat n :: bytes, rest)
    else
      let (bytes, rest) := formatOnce fuel t args
      match escapeByte? c with
      | some b => (b :: bytes, rest)
      | none => (92 :: String.utf8EncodeChar c ++ bytes, rest)
  | fuel + 1, c :: t, args =>
    let (bytes, rest) := formatOnce fuel t args
    (String.utf8EncodeChar c ++ bytes, rest)

/-- The format, used until it leaves no argument or takes none. -/
def formatAll (format : List Char) : (fuel : Nat) → List String → Bytes
  | 0, _ => []
  | fuel + 1, args =>
    let (bytes, rest) := formatOnce (format.length + 1) format args
    if rest.isEmpty ∨ rest.length = args.length then bytes else bytes ++ formatAll format fuel rest

/-- The first argument as a format for the others. -/
def printf : List String → Bytes
  | [] => []
  | format :: args => formatAll format.toList (args.length + 1) args

/-- What a program can see of the files of its host: the contents at a path, or why there are none. -/
abbrev Reader := String → Except Errno Bytes

/-- The files of a list one after another; the status says whether all could be read. A dash stands
    for the input, which is empty. -/
def cat (files : Reader) (out err : Sink) (streams : Streams) : List String → Streams × Nat
  | [] => (streams, 0)
  | "-" :: more => cat files out err streams more
  | file :: more =>
    match files file with
    | .ok bytes => cat files out err (streams.put out bytes) more
    | .error e =>
      let report := Utf8.encode ("cat: " ++ file ++ ": " ++ e.words ++ "\n")
      ((cat files out err (streams.put err report) more).1, 1)

/-! ## 4. Words of a script -/

/-- The parameters of a script, and the files that it can see. -/
structure Parameters where
  name : String
  args : List String
  files : Reader
  lastExit : Nat := 0
  /-- the number of the line that is being run -/
  line : Nat := 1

/-- The number that stands for the shell's own process. -/
def processId : String := "4242"

/-- The characters that name a parameter. -/
def isParameter (c : Char) : Bool := c.isDigit || ['#', '$', '?', '@', '*'].contains c

/-- The value of a parameter. -/
def Parameters.value (p : Parameters) (c : Char) : String :=
  if c = '0' then p.name
  else if c = '#' then Decimal.text p.args.length
  else if c = '$' then processId
  else if c = '?' then Decimal.text p.lastExit
  else if c.isDigit then (p.args[c.toNat - '0'.toNat - 1]?).getD ""
  else Text.join " " p.args

/-- A piece of a word: characters, or a parameter, inside quotes or not. -/
inductive Piece where
  | text (t : List Char)
  | parameter (c : Char) (quoted : Bool)
  deriving DecidableEq, Repr

/-- One token of a script. -/
inductive Token where
  | word (pieces : List Piece)
  | operator (o : String)
  deriving DecidableEq, Repr

/-- Where in a script the reader is. -/
inductive Quoting where
  | bare
  | single
  | double
  deriving DecidableEq

/-- The token of a word that ends, if there is one; its pieces come last first. -/
def closed (current : Option (List Piece)) : List Token :=
  (current.map fun w => Token.word w.reverse).toList

/-- The word so far is this one character. -/
def isOnly (c : Char) (current : Option (List Piece)) : Bool := current = some [.text [c]]

/-- The tokens of a script, for at most `fuel` characters; `current` is the word so far, last piece
    first. -/
def tokens : (fuel : Nat) → Quoting → (current : Option (List Piece)) → List Char → List Token
  | 0, _, _, _ => []
  | _, _, current, [] => closed current
  | fuel + 1, .single, current, c :: t =>
    if c = '\'' then tokens fuel .bare current t
    else tokens fuel .single (some (.text [c] :: current.getD [])) t
  | fuel + 1, quoting, current, c :: t =>
    let add (p : Piece) : Option (List Piece) := some (p :: current.getD [])
    if c = '"' then
      tokens fuel (if quoting = .double then .bare else .double) (add (.text [])) t
    else if c = '\\' then
      match t with
      | x :: rest =>
        let kept := quoting = .double ∧ x ≠ '"' ∧ x ≠ '\\' ∧ x ≠ '$'
        tokens fuel quoting (add (.text (if kept then ['\\', x] else [x]))) rest
      | [] => tokens fuel quoting (add (.text ['\\'])) []
    else if c = '$' then
      match t with
      | x :: rest =>
        if isParameter x then tokens fuel quoting (add (.parameter x (quoting = .double))) rest
        else tokens fuel quoting (add (.text ['$'])) (x :: rest)
      | [] => tokens fuel quoting (add (.text ['$'])) []
    else if quoting = .double then tokens fuel .double (add (.text [c])) t
    else if c = '\'' then tokens fuel .single (add (.text [])) t
    else if c = ' ' ∨ c = '\t' then closed current ++ tokens fuel .bare none t
    else if c = '#' ∧ current = none then tokens fuel .bare none (t.dropWhile (· ≠ '\n'))
    else if c = ';' ∨ c = '\n' then
      closed current ++ .operator (String.singleton c) :: tokens fuel .bare none t
    else if c = '&' ∧ t.head? = some '&' then
      closed current ++ .operator "&&" :: tokens fuel .bare none t.tail
    else if c = '|' ∧ t.head? = some '|' then
      closed current ++ .operator "||" :: tokens fuel .bare none t.tail
    else if c = '>' then
      match isOnly '2' current, t with
      | true, '&' :: rest => .operator "2>&" :: tokens fuel .bare none rest
      | true, rest => .operator "2>" :: tokens fuel .bare none rest
      | false, rest =>
        let before := if isOnly '1' current then [] else closed current
        match rest with
        | '&' :: rest => before ++ .operator ">&" :: tokens fuel .bare none rest
        | rest => before ++ .operator ">" :: tokens fuel .bare none rest
    else tokens fuel .bare (add (.text [c])) t

/-- Words that are made, and the one that is being made. -/
structure Words where
  made : List String := []
  current : Option (List Char) := none

namespace Words

/-- More characters of the current word. -/
def add (w : Words) (t : List Char) : Words := { w with current := some (w.current.getD [] ++ t) }

/-- The current word is made. -/
def close (w : Words) : Words :=
  match w.current with
  | none => w
  | some t => { made := w.made ++ [String.ofList t], current := none }

/-- More characters, of which blanks end words. -/
def addSplit (w : Words) (t : List Char) : Words :=
  t.foldl (fun w c => if c = ' ' ∨ c = '\t' ∨ c = '\n' then w.close else w.add [c]) w

/-- More words, the first of which goes on with the current one. -/
def addAll (w : Words) : List String → Words
  | [] => w
  | [a] => w.add a.toList
  | a :: more => addAll (w.add a.toList).close more

/-- One more piece. A parameter inside quotes is not split, but the list of all arguments is one word
    each. -/
def piece (p : Parameters) (w : Words) : Piece → Words
  | .text t => w.add t
  | .parameter c quoted =>
    if quoted then
      if c = '@' then w.addAll p.args else w.add (p.value c).toList
    else w.addSplit (p.value c).toList

end Words

/-- The words that a word of a script stands for. -/
def expand (p : Parameters) (pieces : List Piece) : List String :=
  (pieces.foldl (Words.piece p) {}).close.made

/-! ## 5. Simple commands -/

/-- A command with its words and where its streams go. -/
structure Simple where
  words : List String := []
  out : Sink := .stdout
  err : Sink := .stderr

/-- The tokens of one command, read into it, and the tokens after it. -/
def readSimple (p : Parameters) (s : Simple) : List Token → Simple × List Token
  | [] => (s, [])
  | .word w :: ts => readSimple p { s with words := s.words ++ expand p w } ts
  | .operator ">&" :: .word w :: ts =>
    readSimple p (if expand p w = ["2"] then { s with out := s.err } else s) ts
  | .operator "2>&" :: .word w :: ts =>
    readSimple p (if expand p w = ["1"] then { s with err := s.out } else s) ts
  | .operator ">" :: .word _ :: ts => readSimple p { s with out := .nowhere } ts
  | .operator "2>" :: .word _ :: ts => readSimple p { s with err := .nowhere } ts
  | .operator o :: ts => (s, .operator o :: ts)

/-- How a simple command leaves the shell. -/
inductive Left where
  | goesOn (status : Nat)
  | ends (exit : Exit)

/-- The status that a number in a script stands for. -/
def exitStatus (arg : String) : Option Nat := (Decimal.natural? arg.toList).map (· % 256)

/-- What a script says on its error stream: who speaks, in which line, and what. -/
def complaint (p : Parameters) (words : String) : Bytes :=
  Utf8.encode (p.name ++ ": " ++ Decimal.text p.line ++ ": " ++ words ++ "\n")

/-- Run one command that has words. -/
def runWords (p : Parameters) (s : Simple) (streams : Streams) : List String → Streams × Left
  | [] => (streams, .goesOn p.lastExit)
  | "echo" :: args => (streams.put s.out (echo true args), .goesOn 0)
  | "printf" :: args => (streams.put s.out (printf args), .goesOn 0)
  | "true" :: _ => (streams, .goesOn 0)
  | ":" :: _ => (streams, .goesOn 0)
  | "false" :: _ => (streams, .goesOn 1)
  | "cat" :: paths =>
    let (streams, status) := cat p.files s.out s.err streams paths
    (streams, .goesOn status)
  | "sleep" :: _ => (streams, .goesOn 0)
  | "exit" :: [] => (streams, .ends (.code p.lastExit))
  | "exit" :: arg :: _ =>
    match exitStatus arg with
    | some n => (streams, .ends (.code n))
    | none =>
      (streams.put s.err (complaint p ("exit: Illegal number: " ++ arg)), .ends (.code 2))
  | "kill" :: "-0" :: [pid] => (streams, .goesOn (if pid = processId then 0 else 1))
  | "kill" :: args =>
    if args.getLast? = some processId then (streams, .ends .signal) else (streams, .goesOn 1)
  | "exec" :: [] => (streams, .goesOn 0)
  | "exec" :: words =>
    match runWords p s streams words with
    | (streams, .goesOn status) => (streams, .ends (.code status))
    | ended => ended
  | "!" :: words =>
    match runWords p s streams words with
    | (streams, .goesOn status) => (streams, .goesOn (if status = 0 then 1 else 0))
    | ended => ended
  | name :: _ =>
    (streams.put s.err (complaint p (name ++ ": not found")), .goesOn 127)

/-- Run the commands of a script, for at most `fuel` of them. The words of each are expanded when
    its turn comes, so that they tell the last status. -/
def runTokens (p : Parameters) : (fuel : Nat) → (skipping : Bool) → List Token → Streams → Ended
  | 0, _, _, streams => ⟨streams, .code p.lastExit⟩
  | _, _, [], streams => ⟨streams, .code p.lastExit⟩
  | fuel + 1, skipping, ts, streams =>
    let (command, rest) := readSimple p {} ts
    let (streams, left) :=
      if skipping then (streams, Left.goesOn p.lastExit)
      else runWords p command streams command.words
    match left with
    | .ends exit => ⟨streams, exit⟩
    | .goesOn status =>
      let p := { p with lastExit := status }
      match rest with
      | .operator "&&" :: more => runTokens p fuel (status ≠ 0) more streams
      | .operator "||" :: more => runTokens p fuel (status = 0) more streams
      | .operator "\n" :: more => runTokens { p with line := p.line + 1 } fuel false more streams
      | .operator _ :: more => runTokens p fuel false more streams
      | _ => ⟨streams, .code status⟩

/-- Run a script. -/
def runScript (p : Parameters) (script : String) : Ended :=
  let ts := tokens (script.toList.length + 1) .bare none script.toList
  runTokens p (ts.length + 1) false ts {}

/-! ## 6. Programs -/

/-- A program. -/
inductive Program where
  | true
  | false
  | echo
  | printf
  | cat
  | sh
  deriving DecidableEq, Repr

/-- The name of a program. -/
def Program.name : Program → String
  | .true => "true"
  | .false => "false"
  | .echo => "echo"
  | .printf => "printf"
  | .cat => "cat"
  | .sh => "sh"

/-- All programs. -/
def Program.all : List Program := [.true, .false, .echo, .printf, .cat, .sh]

/-- Run the script in a file. -/
def runFile (files : Reader) (calledAs path : String) (args : List String) : Ended :=
  match files path with
  | .ok bytes => runScript { name := path, args, files } (Utf8.lossy bytes)
  | .error _ =>
    ⟨{ stderr := Utf8.encode (calledAs ++ ": 0: cannot open " ++ path ++ ": No such file\n") }, .code 2⟩

/-- What a program does with its arguments on a host with files. -/
def Program.run (program : Program) (files : Reader) (calledAs : String) (args : List String) : Ended :=
  match program, args with
  | .true, _ => ⟨{}, .code 0⟩
  | .false, _ => ⟨{}, .code 1⟩
  | .echo, args => ⟨{ stdout := Shell.echo Bool.false args }, .code 0⟩
  | .printf, args => ⟨{ stdout := Shell.printf args }, .code 0⟩
  | .cat, args =>
    let (streams, status) := Shell.cat files .stdout .stderr {} args
    ⟨streams, .code status⟩
  | .sh, "-c" :: script :: rest =>
    runScript { name := rest.headD calledAs, args := rest.tail, files } script
  | .sh, ["-c"] =>
    ⟨{ stderr := Utf8.encode (calledAs ++ ": 0: -c requires an argument\n") }, .code 2⟩
  | .sh, path :: rest => runFile files calledAs path rest
  | .sh, [] => ⟨{}, .code 0⟩

end HostAgent.Shell
