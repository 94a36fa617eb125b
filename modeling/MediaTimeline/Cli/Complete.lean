import MediaTimeline.Cli.Commands
import MediaTimeline.Text.Blank
import MediaTimeline.Text.Utf8

/-! Completion requests: what the command line offers a shell for the word being typed. -/

namespace MediaTimeline.Cli

/-- How the shell goes on after the offers. -/
inductive CompletionDirective where
  | fileNames
  | noSpace
  | noFiles
deriving DecidableEq, Inhabited

def CompletionDirective.code : CompletionDirective → Nat
  | .fileNames => 0
  | .noSpace => 2
  | .noFiles => 4

def CompletionDirective.name : CompletionDirective → String
  | .fileNames => "ShellCompDirectiveDefault"
  | .noSpace => "ShellCompDirectiveNoSpace"
  | .noFiles => "ShellCompDirectiveNoFileComp"

/-- The offers for a word, and how the shell goes on. -/
structure Completion where
  offers : List String := []
  directive : CompletionDirective := .fileNames
deriving Inhabited

def completionRequestNames : List String := ["__complete", "__completeNoDesc"]

def flagOffers (word : String) (f : FlagSpec) : List String :=
  let long := "--" ++ f.name
  (if long.startsWith word then [long ++ "\t" ++ f.usage] else []) ++
    match f.letter with
    | some c =>
      let short := "-" ++ String.singleton c
      if short.startsWith word then [short ++ "\t" ++ f.usage] else []
    | none => []

def ownFlags (c : CommandSpec) : List FlagSpec :=
  c.flags ++ c.persistent ++ [c.helpFlag] ++ (if c.isRoot then [versionFlag] else [])

/-- The offers of a command's subcommands for a word: each that can be offered,
and help, whose name the word starts. -/
def subcommandOffers (cmds : List CommandSpec) (c : CommandSpec) (word : String) : List String :=
  ((childrenOf cmds c).filter fun d => available cmds 4 d || d.path == ["help"]).filterMap fun d =>
    if d.name.startsWith word then some (d.name ++ "\t" ++ d.short) else none

def offersSubcommands (cmds : List CommandSpec) (c : CommandSpec) : Bool :=
  (childrenOf cmds c).any fun d => available cmds 4 d || d.path == ["help"]

def isFlagWord (w : List UInt8) : Bool :=
  match w with
  | 0x2D :: 0x2D :: _ :: _ => true
  | 0x2D :: c :: _ => c != 0x2D
  | _ => false

def findFlag (flags : List FlagSpec) (name : List UInt8) : Option FlagSpec :=
  match name with
  | [b] => flags.find? fun f => f.letter.any fun c => (String.singleton c).toUTF8.toList == [b]
  | _ => flags.find? fun f => f.name.toUTF8.toList == name

/-- Where the word being completed is the value of a flag: the flag, the words
before it that are still to be read, and the part of the word to complete. The
word is a flag's value after an `=` in it, or when the word before it is a flag
without `=` that takes a value. A flag named there that the command does not
know is a failure that only counts while flags are still being read. -/
structure FlagValueCheck where
  flag : Option FlagSpec
  words : List String
  word : String
  unknownFlag : Bool := false

def checkFlagValue (flags : List FlagSpec) (words : List String) (word : String) : FlagValueCheck :=
  let wb := word.toUTF8.toList
  let withEqual : Option (List UInt8 × List UInt8) := match wb with
    | 0x2D :: _ => match wb.idxOf? 0x3D with
      | some i =>
        let pre := wb.take i
        let name := match pre with
          | 0x2D :: 0x2D :: rest => rest
          | _ => (wb.take i).drop (i - 1)
        some (name, wb.drop (i + 1))
      | none => none
    | _ => none
  match wb, withEqual with
  | 0x2D :: _, none => { flag := none, words := words, word := word }
  | _, _ =>
    let (name, rest, before) : List UInt8 × String × List String := match withEqual with
      | some (name, rest) => (name, Text.stringOfUtf8 rest, words)
      | none => ([], word, words)
    let (name, before) : List UInt8 × List String :=
      if !name.isEmpty then (name, before)
      else match words.getLast? with
        | some prev =>
          let pb := prev.toUTF8.toList
          if isFlagWord pb && !pb.contains 0x3D then
            ((match pb with
              | 0x2D :: 0x2D :: n => n
              | _ => pb.drop (pb.length - 1)), words.dropLast)
          else ([], before)
        | none => ([], before)
    if name.isEmpty then { flag := none, words := before, word := rest }
    else match findFlag flags name with
      | none => { flag := none, words := words, word := word, unknownFlag := true }
      | some f =>
        if withEqual.isNone && f.takesNoValue then { flag := none, words := words, word := rest }
        else { flag := some f, words := before, word := rest }

/-- What a command offers for the word being completed when its arguments are
`args`, and the directive it sets, if it offers anything itself. -/
def argumentOffers (cmds : List CommandSpec) (c : CommandSpec) (args : List String) (word : String) :
    Option Completion :=
  match c.argCompletion with
  | .nothing => none
  | .noFiles => some { directive := .noFiles }
  | .commandNames =>
    match findCommand cmds args with
    | .error _ => some { directive := .noFiles }
    | .ok (d, _) =>
      some { offers := (childrenOf cmds d).filterMap (fun e =>
          if (available cmds 4 e || (d.isRoot && e.path == ["help"])) && e.name.startsWith word then
            some (e.name ++ "\t" ++ e.short)
          else none), directive := .noFiles }

def complete (cmds : List CommandSpec) (typed : List String) : Completion :=
  let word := typed.getLastD ""
  match findCommand cmds typed.dropLast with
  | .error _ => {}
  | .ok (c, rest) =>
    let flags := runFlags cmds c
    let check := checkFlagValue flags rest word
    let word := check.word
    match readWords flags check.words {}, readWords flags (check.words ++ ["--"]) {} with
    | .error _, _ => {}
    | .ok reading, withEnd =>
      let stillFlags := match withEnd with
        | .ok r => r.arguments.length ≤ reading.arguments.length
        | .error _ => true
      if check.unknownFlag && stillFlags then {}
      else if (reading.given.lookup "help").isSome || (c.isRoot && (reading.given.lookup "version").isSome) then
        { directive := .noFiles }
      else
        let given (f : FlagSpec) : Bool := (reading.given.lookup f.name).isSome
        let offered (f : FlagSpec) : Bool := !given f || f.kind == .texts
        if check.flag.isNone && word.startsWith "-" && !word.contains '=' && stillFlags then
          let sorted (fs : List FlagSpec) : List FlagSpec := fs.foldr insertFlag []
          let offers := ((sorted (inheritedFlags cmds c)) ++ sorted (ownFlags c)).filter offered
            |>.flatMap (flagOffers word)
          { offers := offers,
            directive := if offers.length = 1 && offers.all (·.endsWith "=") then .noSpace else .noFiles }
        else
          let base : Completion :=
            if check.flag.isSome then {}
            else if reading.arguments.isEmpty && !(c.flags ++ [c.helpFlag]).any given then
              { offers := subcommandOffers cmds c word,
                directive := if offersSubcommands cmds c then .noFiles else .fileNames }
            else {}
          if check.flag.isSome && stillFlags then base
          else match argumentOffers cmds c reading.arguments word with
            | some more => { offers := base.offers ++ more.offers, directive := more.directive }
            | none => base

/-- The text a completion answer prints: each offer on a line of its own, the
description left out when `descriptions` is off, then the directive's number
after a colon. -/
def Completion.text (r : Completion) (descriptions : Bool) : String :=
  let line (o : String) : String :=
    let o := if descriptions then o else (o.splitOn "\t").headD ""
    Text.trimBlank ((o.splitOn "\n").headD "") ++ "\n"
  String.join (r.offers.map line) ++ ":" ++ toString r.directive.code ++ "\n"

def Completion.report (r : Completion) : String :=
  "Completion ended with directive: " ++ r.directive.name ++ "\n"

end MediaTimeline.Cli
