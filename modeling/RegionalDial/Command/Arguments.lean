/-
# Command lines

A command line names a command and then its flags, in any order and each at most once.  A value
stands behind its flag or is joined to it with `=`; only a joined one may start with a dash.  The
two flags of a client certificate need each other.

Arguments are taken from left to right, and the first that is refused, or that asks for help or
for the version, ends the reading.
-/
import RegionalDial.Command.Target
import RegionalDial.SocketAddress

namespace RegionalDial
namespace Command

open Text

/-! ## 1. Commands and flags -/

/-- The name of the program. -/
def programName : String := "cvconnect"

/-- The version of the program. -/
def programVersion : String := "0.1.0"

/-- What the program can be asked to do. -/
inductive Verb where
  | resolve | connect | serve
deriving DecidableEq, Inhabited

namespace Verb

def name : Verb → String
  | resolve => "resolve"
  | connect => "connect"
  | serve => "serve"

def all : List Verb := [resolve, connect, serve]

end Verb

/-- The flags. -/
inductive Flag where
  | server | auth | clientCert | clientKey | plaintext | timeout | format | listen | assignments
deriving DecidableEq, Inhabited

namespace Flag

/-- The name behind two dashes. -/
def name : Flag → String
  | server => "server"
  | auth => "auth"
  | clientCert => "client-cert"
  | clientKey => "client-key"
  | plaintext => "plaintext"
  | timeout => "timeout"
  | format => "format"
  | listen => "listen"
  | assignments => "assignments"

/-- The letter behind one dash. -/
def letter? : Flag → Option Char
  | format => some 'f'
  | _ => none

def takesValue : Flag → Bool
  | plaintext => false
  | _ => true

end Flag

/-- The flags of a target. -/
def targetFlags : List Flag :=
  [.server, .auth, .clientCert, .clientKey, .plaintext, .timeout]

/-- The flags of a command. -/
def Verb.flags : Verb → List Flag
  | .resolve => targetFlags ++ [.format]
  | .connect => targetFlags
  | .serve => [.listen, .assignments]

/-! ## 2. What was given -/

/-- The flags that were given, with their values. -/
structure Given where
  server : Option String
  auth : Option Auth
  clientCert : Option Path
  clientKey : Option Path
  plaintext : Bool
  timeout : Option Nat
  format : Option String
  listen : Option SocketAddress
  assignments : Option Path
deriving DecidableEq, Inhabited

/-- Nothing. -/
def Given.nothing : Given := ⟨none, none, none, none, false, none, none, none, none⟩

/-- A number of seconds: digits, perhaps behind a plus, that fit in 64 bits. -/
def seconds? (s : String) : Option Nat :=
  let digits := match s.toList with
    | '+' :: rest => rest
    | cs => cs
  let n := digits.foldl (fun n c => n * 10 + (c.toNat - '0'.toNat)) 0
  if !digits.isEmpty && digits.all Char.isDigit && n < Nat.pow 2 64 then some n else none

/-- A path, which may not be empty. -/
def path? (value : List UInt8) : Option Path := if value.isEmpty then none else some ⟨value⟩

/-- Sets a field that is not set yet to a value that could be read. -/
def setOnce {α : Type} (field : Option α) (value : Option α) (set : α → Given) : Option Given :=
  match field, value with
  | none, some value => some (set value)
  | _, _ => none

/-- Takes one more flag and its value, unless the flag was given before or the value is no value
of it. -/
def Given.set (given : Given) (flag : Flag) (value : List UInt8) : Option Given :=
  let text := Utf8.decode? value
  match flag with
  | .server => setOnce given.server text fun server => { given with server := some server }
  | .auth =>
    setOnce given.auth (text.bind fun text => (Auth.parse text).toOption) fun auth =>
      { given with auth := some auth }
  | .clientCert =>
    setOnce given.clientCert (path? value) fun path => { given with clientCert := some path }
  | .clientKey =>
    setOnce given.clientKey (path? value) fun path => { given with clientKey := some path }
  | .plaintext => if given.plaintext then none else some { given with plaintext := true }
  | .timeout =>
    setOnce given.timeout (text.bind seconds?) fun timeout => { given with timeout := some timeout }
  | .format => setOnce given.format text fun format => { given with format := some format }
  | .listen =>
    setOnce given.listen (text.bind SocketAddress.parse?) fun listen =>
      { given with listen := some listen }
  | .assignments =>
    setOnce given.assignments (path? value) fun path => { given with assignments := some path }

/-! ## 3. Reading arguments -/

/-- Why a command line is not run. -/
inductive Refusal where
  /-- It is not understood. -/
  | usage
  /-- It asks for help. -/
  | help
  /-- It asks for the version of the program or of one command. -/
  | version (verb : Option Verb)
deriving DecidableEq, Inhabited

/-- An argument by its form. -/
inductive Argument where
  /-- Two dashes alone. -/
  | dashes
  /-- A name behind two dashes, perhaps with a value. -/
  | long (name : List UInt8) (value : Option (List UInt8))
  /-- Letters behind one dash, or one letter and a value. -/
  | short (letter : UInt8) (rest : List UInt8)
  | word (bytes : List UInt8)
deriving DecidableEq, Inhabited

/-- The dash. -/
def dash : UInt8 := 0x2D

/-- The equals sign. -/
def equalsSign : UInt8 := 0x3D

/-- The form of an argument.  A single dash is a word. -/
def Argument.ofBytes (bytes : List UInt8) : Argument :=
  match bytes with
  | a :: b :: rest =>
    if a = dash then
      if b = dash then
        if rest = [] then .dashes
        else
          match rest.dropWhile (· ≠ equalsSign) with
          | [] => .long rest none
          | _ :: value => .long (rest.takeWhile (· ≠ equalsSign)) (some value)
      else .short b rest
    else .word bytes
  | _ => .word bytes

/-- The flag of a command with this name. -/
def Verb.flagNamed? (verb : Verb) (name : List UInt8) : Option Flag :=
  verb.flags.find? fun flag => Utf8.encode flag.name == name

/-- The flag of a command with this letter. -/
def Verb.flagLettered? (verb : Verb) (letter : UInt8) : Option Flag :=
  verb.flags.find? fun flag => flag.letter?.any fun c => c.toNat = letter.toNat

/-- Is the argument asking for help or for the version, by a name or by its first letter? -/
def asked? (verb : Option Verb) : Argument → Option Refusal
  | .long name none =>
    if name = Utf8.encode "help" then some .help
    else if name = Utf8.encode "version" then some (.version verb)
    else none
  | .short letter _ =>
    if letter.toNat = 'h'.toNat then some .help
    else if letter.toNat = 'V'.toNat then some (.version verb)
    else none
  | _ => none

/-- The flag that an argument names, and the value joined to it. -/
def flagOf? (verb : Verb) : Argument → Option (Flag × Option (List UInt8))
  | .long name value => (verb.flagNamed? name).map fun flag => (flag, value)
  | .short letter rest =>
    (verb.flagLettered? letter).map fun flag =>
      (flag, match rest with
        | [] => none
        | c :: value => if c = equalsSign then some value else some rest)
  | _ => none

/-- Reads the flags of a command. -/
def readFlags (verb : Verb) : Given → List (List UInt8) → Except Refusal Given
  | given, [] => .ok given
  | given, bytes :: rest =>
    let argument := Argument.ofBytes bytes
    if argument = .dashes then if rest = [] then .ok given else .error .usage
    else
      match asked? (some verb) argument with
      | some refusal => .error refusal
      | none =>
        match flagOf? verb argument with
        | none => .error .usage
        | some (flag, value) =>
          if flag.takesValue then
            match value with
            | some value =>
              match given.set flag value with
              | some given => readFlags verb given rest
              | none => .error .usage
            | none =>
              match rest with
              | [] => .error .usage
              | next :: rest =>
                match Argument.ofBytes next with
                | .word value =>
                  match given.set flag value with
                  | some given => readFlags verb given rest
                  | none => .error .usage
                | _ => .error .usage
          else if value.isSome then .error .usage
          else
            match given.set flag [] with
            | some given => readFlags verb given rest
            | none => .error .usage

/-! ## 4. Commands -/

/-- What the program is asked to do, `Command`. -/
inductive Invocation where
  | resolve (target : Target) (format : String)
  | connect (target : Target)
  | serve (listen : SocketAddress) (assignments : Path)
deriving DecidableEq, Inhabited

/-- Seconds where none are given. -/
def defaultTimeout : Nat := 30

/-- The address where none is given, `127.0.0.1:9900`. -/
def defaultListen : SocketAddress := ⟨[127, 0, 0, 1], false, 9900⟩

/-- Was the flag given? -/
def Given.has (given : Given) : Flag → Bool
  | .server => given.server.isSome
  | .auth => given.auth.isSome
  | .clientCert => given.clientCert.isSome
  | .clientKey => given.clientKey.isSome
  | .plaintext => given.plaintext
  | .timeout => given.timeout.isSome
  | .format => given.format.isSome
  | .listen => given.listen.isSome
  | .assignments => given.assignments.isSome

/-- The flag that a flag needs beside it, its `requires`. -/
def Flag.requires? : Flag → Option Flag
  | .clientCert => some .clientKey
  | .clientKey => some .clientCert
  | _ => none

/-- Is what a flag needs given, if the flag is? -/
def Given.meets (given : Given) (flag : Flag) : Bool :=
  !given.has flag || flag.requires?.all given.has

/-- The target, if a server is given and with each flag the one that it needs. -/
def Given.target? (given : Given) : Option Target :=
  match given.server with
  | none => none
  | some server =>
    if targetFlags.all given.meets then
      some ⟨server, given.auth, given.clientCert, given.clientKey, given.plaintext,
        given.timeout.getD defaultTimeout⟩
    else none

/-- What a command is asked to do by its flags. -/
def Invocation.ofGiven? (verb : Verb) (given : Given) : Option Invocation :=
  match verb with
  | .resolve => given.target?.map fun target => .resolve target (given.format.getD "text")
  | .connect => given.target?.map .connect
  | .serve => given.assignments.map fun path => .serve (given.listen.getD defaultListen) path

/-- The files that an invocation may read. -/
def Invocation.paths : Invocation → List Path
  | resolve target _ => target.paths
  | connect target => target.paths
  | serve _ assignments => [assignments]

/-- The word that asks for help where a command is expected. -/
def helpWord : List UInt8 := Utf8.encode "help"

/-- The command with this name. -/
def Verb.named? (name : List UInt8) : Option Verb :=
  all.find? fun verb => Utf8.encode verb.name == name

/-- Can help be given on these words?  They are nothing, a command, or the word for help. -/
def hasHelp : List (List UInt8) → Bool
  | [] => true
  | [word] => word = helpWord || (Verb.named? word).isSome
  | _ => false

/-- Reads a command line, the name of the program left out: `Cli.parse`. -/
def Invocation.parse (arguments : List (List UInt8)) : Except Refusal Invocation :=
  match arguments with
  | [] => .error .usage
  | first :: rest =>
    match asked? none (Argument.ofBytes first) with
    | some refusal => .error refusal
    | none =>
      match Verb.named? first with
      | none => if first = helpWord && hasHelp rest then .error .help else .error .usage
      | some verb =>
        match readFlags verb Given.nothing rest with
        | .error refusal => .error refusal
        | .ok given =>
          match Invocation.ofGiven? verb given with
          | some invocation => .ok invocation
          | none => .error .usage

end Command
end RegionalDial
