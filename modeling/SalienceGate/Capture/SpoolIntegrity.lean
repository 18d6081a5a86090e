import SalienceGate.Capture.SpoolFence
import SalienceGate.Capture.SpoolHealth

/-!
# Runs of a spool that stay sound

A run of calls that starts with an empty spool keeps it sound, unless an entry is stored for a session
with a new marker that the drop state still names, or a call crashes between the deletion of the barrier
and of the drop state. Both happen: the drop state names the marker of a session by its tag, and the tag
is the same for every marker that the session ever has.
-/

namespace SalienceGate

open Checked CaptureSpool

section

variable [CaptureKey]

/-- A step that leaves a sound spool sound: an entry is not stored for a session whose marker is new while
the drop state names it, and a call does not crash while the marker of the barrier is missing. -/
def SettledEvent (s : LockedSpool) : SpoolEvent → Prop
  | .asked _ request _ => request.Settled s.shared
  | .crashed _ => s.shared.BarrierFound
  | _ => True

/-- A step of the calls of a spool that leaves it sound. -/
abbrev SettledStep (s : LockedSpool) (event : SpoolEvent) (t : LockedSpool) : Prop :=
  SpoolStep s event t ∧ SettledEvent s event

/-- Every call keeps the spool sound, from one question to the next. -/
theorem soundContract : Locked.Contract SpoolCall.program
    (fun s request reply t => SpoolRequest.answers s request reply t ∧ request.Settled s)
    Spool.BarrierFound unobserved (fun _ => ()) (fun s _ _ => s.Kept) (fun _ => IsSound) Spool.Sound where
  begins call _ hs := call.isSound hs
  ends _ _ _ _ h := h.2
  stops _ _ _ hkept hfound := ⟨hkept, hfound⟩

variable {events : List SpoolEvent} {s t : LockedSpool}

theorem settledStep_iff {event : SpoolEvent} : SettledStep s event t ↔ Locked.Step SpoolCall.program
    (fun s request reply t => SpoolRequest.answers s request reply t ∧ request.Settled s)
    Spool.BarrierFound s event t := by
  constructor
  · rintro ⟨hstep, hsettled⟩
    cases hstep with
    | began s call => exact .began s call
    | asked s call request next reply t h => exact .asked s call request next reply t ⟨h, hsettled⟩
    | returned s call a => exact .returned s call a
    | raised s call e => exact .raised s call e
    | crashed s call at_ _ => exact .crashed s call at_ hsettled
  · intro hstep
    cases hstep with
    | began s call => exact ⟨.began s call, trivial⟩
    | asked s call request next reply t h => exact ⟨.asked s call request next reply t h.1, h.2⟩
    | returned s call a => exact ⟨.returned s call a, trivial⟩
    | raised s call e => exact ⟨.raised s call e, trivial⟩
    | crashed s call at_ h => exact ⟨.crashed s call at_ trivial, h⟩

end

/-! ## A session that is spooled again -/

attribute [local instance] spoolKey

/-- A condition on what is asked, that can be evaluated. -/
def allowsSettled (s : Spool) : SpoolRequest → Bool
  | .file (.publishEntry intake) => !(s.markers.get? intake.session = some .pending
      && acknowledgedMarker s.dropState = some (CaptureKey.sessionMarkerTag intake.session))
  | _ => true

theorem settled_of_allowsSettled {s : Spool} {request : SpoolRequest}
    (h : allowsSettled s request = true) : request.Settled s := by
  unfold SpoolRequest.Settled
  split
  · exact not_and_or.mpr (by simpa [allowsSettled] using h)
  · trivial

/-- The intake is queued, and its call crashes after the marker of its session was stored; what is there
is drained. -/
def recovered : List (LockedTurn SpoolCall) :=
  .call (.enqueue spoolIntake) :: List.replicate 4 .next ++ .crash
    :: .call .drain :: List.replicate 7 .next

/-- A call crashes. -/
def isCrash : SpoolEvent → Bool
  | .crashed _ => true
  | _ => false

/-- The schedule has a crash, and asks nothing that makes the spool unsound. -/
theorem recovered_settled : (Spool.empty.unlocked.schedule SpoolCall.program spoolAnswer allowsSettled
    (fun s => (bridgeBarrierMarker s.dropState).isNone) recovered).any
    (fun run => run.1.any isCrash) = true := by decide +kernel

/-- The intake is queued again after that, and then the health of the spool is asked for. -/
def respooled : List (LockedTurn SpoolCall) :=
  recovered ++ .call (.enqueue spoolIntake) :: List.replicate 7 .next
    ++ .call .health :: List.replicate 4 .next

/-- A health call ends with an integrity error. -/
def isUnhealthy : SpoolEvent → Bool
  | .ended .health (.error .integrity) => true
  | _ => false

/-- The schedule ends with a health call that raises an integrity error. -/
theorem respooled_unhealthy : (Spool.empty.unlocked.schedule SpoolCall.program spoolAnswer (fun _ _ => true)
    (fun _ => true) respooled).any (fun run => run.1.any isUnhealthy) = true := by decide +kernel

end SalienceGate
