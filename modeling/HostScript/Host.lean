import HostScript.Journal

/-!
# The host, as a run sees it

A host answers three questions and takes scripts by name. Asking whether it is busy may change its state;
taking a script may also change files, and either succeeds or fails, with a fault of whatever kind.
-/
namespace HostScript

/-- What handing over a script came to. -/
structure Submission (σ : Type) where
  host : σ
  files : FileSystem
  notices : List Notice
  result : Except Fault Unit

structure Host (σ : Type) where
  isConnected : σ → Bool
  isDrawingActive : σ → Bool
  /-- Whether a script is being executed. -/
  probe : σ → Bool × σ
  /-- Takes a script by the name under which the host finds it. -/
  submit : String → σ → FileSystem → Submission σ

end HostScript
