import BlobDepot.Proofs.Desks

set_option autoImplicit false

namespace BlobDepot.Command

open Step

structure Invocation where
  surroundings : Surroundings := {}
  arguments : List String

/-- What a command line asks for: the options in front give a configuration, and the words behind
the name of a command are what it needs. -/
inductive Asks
    (invocation : Invocation)
    (folder : Folder)
    (config : Config)
    (request : Request) : Prop
  | read (words own : Words) (verb : Verb) (rest : List String) (level : Int)
      (options : readWords Settings.forms false {} invocation.arguments = .ok words)
      (unhelped : words.help = false)
      (documented : forall file,
        (Settings.ofWords invocation.surroundings words).document = some file ->
          requireFile folder "--config" file = .ok ())
      (named : words.others = verb.name :: rest)
      (leveled : Log.readLevelName
        (Settings.ofWords invocation.surroundings words).logLevel = .ok level)
      (configured : (Settings.ofWords invocation.surroundings words).config
        invocation.surroundings folder = .ok config)
      (parameters : readWords [helpOption] true {} rest = .ok own)
      (unexplained : own.help = false)
      (asked : Request.ofWords folder verb own.others = .ok request) :
      Asks invocation folder config request

section

variable {config : Config} {desk : Desk} {request : Request} {shell : Shell}

end

structure Run where
  found : Shell
  ending : Ending
  left : Shell

namespace Desk

/-- The command lines ask for commands on one path of one bucket, whatever they are configured to
besides, and what they put has an accepted size. -/
def Suits (bucket : String) (path : BlobPath) : Desk -> List Invocation -> List Request -> Prop
  | _, [], [] => True
  | desk, invocation :: invocations, request :: requests =>
      (exists config, Asks invocation desk.folder config request ∧ config.bucket = bucket ∧
        config.basePathSegments = path ∧ request.Fits config desk.folder) ∧
      Suits bucket path (desk.after path request) invocations requests
  | _, _, _ => False

end Desk

def Invocation.plain (bucket : String) (verb : Verb) (rest : List String) : Invocation where
  arguments := "--bucket" :: bucket :: verb.name :: rest

end BlobDepot.Command
