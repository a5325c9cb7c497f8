import Conch.Line.Quote
import Conch.Text.Blank
import Conch.World.Program

/-!
# A system shell

What stands in for the system's shell on the machines that are set up here. It knows lines of words
in quotes with bars between them and takes every word as it is. Stages run from left to right, each
apart from the others, and the status is that of the last one.
-/

namespace Conch.World.Posix

open Text (Bytes)

/-- Reads a line from a state of quotes on, with the characters of the word that is being read, last
one first, and the words of the stage in front of it. Quotes belong to no word, and an empty word has
nothing but quotes. -/
def readStages (q : Line.Quote) (word : Option (List Char)) (stage : List String) :
    List Char → List (List String)
  | [] => [stage ++ (word.map fun cs => String.ofList cs.reverse).toList]
  | c :: rest =>
    let words := stage ++ (word.map fun cs => String.ofList cs.reverse).toList
    if q.next c ≠ q then readStages (q.next c) (some (word.getD [])) stage rest
    else if q = .none ∧ c = ' ' then readStages .none none words rest
    else if q = .none ∧ c = '|' then words :: readStages .none none [] rest
    else readStages q (some (c :: word.getD [])) stage rest

/-- The stages of a line. -/
def read (line : String) : List (List String) := readStages .none none [] line.toList

def octalDigits : Nat → List Char → List Char
  | 0, _ => []
  | n + 1, c :: rest => if '0' ≤ c && c ≤ '7' then c :: octalDigits n rest else []
  | _ + 1, [] => []

def octalByte (ds : List Char) : UInt8 :=
  (ds.foldl (fun (n : Nat) (d : Char) => n * 8 + (d.toNat - 48)) 0).toUInt8

def letterEscape? (c : Char) : Option UInt8 :=
  if c == 'a' then some 7
  else if c == 'b' then some 8
  else if c == 'f' then some 12
  else if c == 'n' then some 10
  else if c == 'r' then some 13
  else if c == 't' then some 9
  else if c == 'v' then some 11
  else if c == '\\' then some 92
  else none

/-- The bytes of a text with its escapes read, and whether `\c` ended it. -/
def echoBytes : Nat → List Char → Bytes × Bool
  | 0, _ => ([], false)
  | _ + 1, [] => ([], false)
  | fuel + 1, c :: rest =>
    let plain (cs : List Char) (tail : List Char) : Bytes × Bool :=
      let (more, ended) := echoBytes fuel tail
      (Text.encode (String.ofList cs) ++ more, ended)
    let byte (b : UInt8) (tail : List Char) : Bytes × Bool :=
      let (more, ended) := echoBytes fuel tail
      (b :: more, ended)
    if c != '\\' then plain [c] rest
    else match rest with
      | [] => plain [c] []
      | 'c' :: _ => ([], true)
      | '0' :: tail =>
        let ds := octalDigits 3 tail
        byte (octalByte ds) (tail.drop ds.length)
      | d :: tail =>
        match letterEscape? d with
        | some b => byte b tail
        | none =>
          let ds := octalDigits 3 rest
          if ds.isEmpty then plain [c, d] tail else byte (octalByte ds) (rest.drop ds.length)

def echo (args : List String) : Bytes :=
  let (newline, args) : Bool × List String := match args with
    | "-n" :: rest => (false, rest)
    | args => (true, args)
  let text := (" ".intercalate args).toList
  let (bytes, ended) := echoBytes (text.length + 1) text
  if newline && !ended then bytes ++ [10] else bytes

def complaint (s : String) : Bytes := Text.encode ("/bin/sh: 1: " ++ s ++ "\n")

def ownCommands : List String := ["echo", "true", "false", "pwd", "cd", "type"]

def typeOf (i : Invocation) (name : String) : Bytes × Nat :=
  if name == "exit" then (Text.encode (name ++ " is a special shell builtin\n"), 0)
  else if ownCommands.contains name then (Text.encode (name ++ " is a shell builtin\n"), 0)
  else match i.files.which i.cwd i.env name with
    | some path => (Text.encode (name ++ " is " ++ path ++ "\n"), 0)
    | none => (Text.encode (name ++ ": not found\n"), 127)

/-- Runs all of a stage's names through `type`; the status is that of the last failure. -/
def types (i : Invocation) (names : List String) : Bytes × Nat :=
  names.foldl (fun (out, status) n =>
    let (o, s) := typeOf i n
    (out ++ o, if s == 0 then status else s)) ([], 0)

def digitsOnly (s : String) : Bool := !s.isEmpty && s.toList.all Char.isDigit

/-- A file that may be run and is no program is read as a script. None of its lines is a command,
and the status is that of the last one. -/
def script (name : String) (text : List Char) : Bytes × Nat :=
  let rows := (Path.cut '\n' [] text).zipIdx.filterMap fun (line, k) =>
    match Text.words line.toList with
    | [] => none
    | word :: _ =>
      if word.head? == some '#' then none
      else some (Text.encode
        (name ++ ": " ++ toString (k + 1) ++ ": " ++ String.ofList word ++ ": not found\n"))
  (rows.flatten, if rows.isEmpty then 0 else 127)

/-- The text of the file that a command name leads to. -/
def fileText (i : Invocation) (file : String) : List Char :=
  match i.files.readAt i.cwd file with
  | .ok data => (Text.decodeLossy data).toList
  | .error _ => []

/-- Runs a stage on the input of an invocation. -/
def stage (programs : String → Program) (i : Invocation) (words : List String) : Finished :=
  match words with
  | [] => Program.finish i [] [] 0
  | "echo" :: args => Program.finish i (echo args) [] 0
  | "true" :: _ => Program.finish i [] [] 0
  | "false" :: _ => Program.finish i [] [] 1
  | "pwd" :: _ => Program.finish i (Text.encode (i.cwd.text ++ "\n")) [] 0
  | "cd" :: args =>
    let directory := args.headD ((i.env["HOME"]?).getD "")
    if i.files.isDirectoryAt i.cwd directory then Program.finish i [] [] 0
    else Program.finish i [] (complaint ("cd: can't cd to " ++ directory)) 2
  | "exit" :: args =>
    match args with
    | [] => Program.finish i [] [] 0
    | n :: _ =>
      if digitsOnly n then Program.finish i [] [] (Program.exitCode n)
      else Program.finish i [] (complaint ("exit: Illegal number: " ++ n)) 2
  | "type" :: names =>
    let (out, status) := types i names
    Program.finish i out [] status
  | name :: args =>
    match i.files.command i.cwd i.env name with
    | .ok program => programs program { i with args := args }
    | .error .noEntry | .error .notDirectory =>
      Program.finish i [] (complaint (name ++ ": not found")) 127
    | .error .execFormat =>
      let file := (i.files.which i.cwd i.env name).getD name
      let (err, code) := script file (fileText i file)
      Program.finish i [] err code
    | .error _ => Program.finish i [] (complaint (name ++ ": Permission denied")) 126

/-- The words for a signal that ended a process. -/
def signalText (n : Nat) : String :=
  match n with
  | 1 => "Hangup"
  | 3 => "Quit"
  | 4 => "Illegal instruction"
  | 5 => "Trace/breakpoint trap"
  | 6 => "Aborted"
  | 7 => "Bus error"
  | 8 => "Floating point exception"
  | 9 => "Killed"
  | 10 => "User defined signal 1"
  | 11 => "Segmentation fault"
  | 12 => "User defined signal 2"
  | 14 => "Alarm clock"
  | 15 => "Terminated"
  | _ => ""

/-- What a shell in between says about a signal that ended a process, and the status it makes of
it. -/
def report (several : Bool) : Ending → Bytes × Ending
  | .signal n =>
    if several then
      let text := signalText n
      (if text.isEmpty then [] else Text.encode (text ++ "\n"), .exit (128 + n))
    else ([], .signal n)
  | e => ([], e)

/-- Runs stages from left to right, each on the output of the one before. -/
def stages (programs : String → Program) (several : Bool) (i : Invocation) :
    List (List String) → Finished
  | [] => Program.finish i [] [] 0
  | [words] =>
    let r := stage programs i words
    let (said, ending) := report several r.ending
    { r with err := r.err ++ said, ending := ending }
  | words :: rest =>
    let r := stage programs i words
    let last := stages programs several { i with files := r.files, input := r.out } rest
    let ending := if r.ending == .interrupt then .interrupt else last.ending
    { last with err := r.err ++ last.err, ending := ending }

/-- Runs the line behind `-c`; without one there is nothing to do. -/
def shell (programs : String → Program) : Program := fun i =>
  match i.args with
  | ["-c", line] =>
    let words := read line
    stages programs (words.length > 1) i words
  | _ => Program.finish i [] [] 0

end Conch.World.Posix
