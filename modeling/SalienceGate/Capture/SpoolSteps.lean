import SalienceGate.Capture.Spool

/-!
# Steps of a spool

The rules of a proof about a call of the spool that holds the lock: what each step on the files needs,
and what it leaves. The procedures that several calls share get one rule each.
-/

namespace SalienceGate

open Checked

variable [CaptureKey] {γ : Type} {observe : γ → (request : SpoolRequest) → Except SpoolError request.Reply → γ}
  {may : Spool → γ → SpoolRequest → Prop} {C : Spool → SpoolRequest → Prop}

/-- The environment of a call of the spool, with a condition on what is asked. -/
abbrev spoolSetting (C : Spool → SpoolRequest → Prop)
    (observe : γ → (request : SpoolRequest) → Except SpoolError request.Reply → γ)
    (may : Spool → γ → SpoolRequest → Prop) :=
  Program.alone (fun spool request reply t => SpoolRequest.answers spool request reply t ∧ C spool request)
    observe may

variable {α : Type} {post : Except SpoolError α → Spool × γ → Prop} {s : Spool} {g : γ}

/-- A step on the files, and what follows it. -/
theorem meets_file_bind {request : SpoolFileRequest} {f : request.Reply → Spooling α}
    (hmay : may s g (.file request))
    (hf : C s (.file request) → (f (s.perform request).1).Meets (spoolSetting C observe may) post
      ((s.perform request).2, observe g (.file request) (.ok (s.perform request).1))) :
    (request.ask >>= f).Meets (spoolSetting C observe may) post (s, g) := by
  refine Program.meets_ask.mpr ⟨hmay, ?_⟩
  rintro reply t ⟨⟨rfl, rfl⟩, hC⟩
  exact hf hC

/-- A call of the store that the spool attempts, and what follows it. -/
theorem meets_append_bind {source : CaptureAdmissionSource} {intake : CaptureIntake}
    {f : Except SpoolError CaptureAppendReceipt → Spooling α}
    (hmay : may s g (.append source intake))
    (hok : ∀ receipt, (f (.ok receipt)).Meets (spoolSetting C observe may) post
      (s, observe g (.append source intake) (.ok receipt)))
    (herror : ∀ e, (f (.error (.store e))).Meets (spoolSetting C observe may) post
      (s, observe g (.append source intake) (.error (.store e)))) :
    ((Program.request (SpoolRequest.append source intake) : Spooling CaptureAppendReceipt).attempt
      >>= f).Meets (spoolSetting C observe may) post (s, g) := by
  refine Program.meets_ask.mpr ⟨hmay, ?_⟩
  rintro reply t ⟨⟨rfl, hstore⟩, -⟩
  cases reply with
  | ok receipt => exact hok receipt
  | error error =>
    obtain ⟨e, rfl⟩ := hstore error rfl
    exact herror e

theorem meets_appendTransportChunk_bind {chunk : CaptureTransportChunk} {intakes : List CaptureIntake}
    {f : Except SpoolError Unit → Spooling α}
    (hmay : may s g (.appendTransportChunk chunk intakes))
    (hok : (f (.ok ())).Meets (spoolSetting C observe may) post
      (s, observe g (.appendTransportChunk chunk intakes) (.ok ())))
    (herror : ∀ e, (f (.error (.store e))).Meets (spoolSetting C observe may) post
      (s, observe g (.appendTransportChunk chunk intakes) (.error (.store e)))) :
    ((Program.request (SpoolRequest.appendTransportChunk chunk intakes) : Spooling Unit).attempt
      >>= f).Meets (spoolSetting C observe may) post (s, g) := by
  refine Program.meets_ask.mpr ⟨hmay, ?_⟩
  rintro reply t ⟨⟨rfl, hstore, -⟩, -⟩
  cases reply with
  | ok receipt => exact hok
  | error error =>
    obtain ⟨e, rfl⟩ := hstore error rfl
    exact herror e

/-- A guard that does not raise. -/
theorem meets_guard {c : Prop} [Decidable c] {error : SpoolError} {f : Unit → Spooling α} (h : ¬c)
    (hf : (f ()).Meets (spoolSetting C observe may) post (s, g)) :
    (.lift (raiseIf c error) >>= f : Spooling α).Meets (spoolSetting C observe may) post (s, g) := by
  rw [raiseIf_eq_ok.mpr h]
  exact hf

theorem meets_last_guard {c : Prop} [Decidable c] {error : SpoolError}
    {post : Except SpoolError Unit → Spool × γ → Prop} (h : ¬c) (hpost : post (.ok ()) (s, g)) :
    (.lift (raiseIf c error) : Spooling Unit).Meets (spoolSetting C observe may) post (s, g) := by
  rw [raiseIf_eq_ok.mpr h]
  exact Program.meets_done.mpr hpost

/-! ## Files -/

/-- The spool with the marker of a session in a state. -/
def Spool.setMarker (s : Spool) (key : SessionKey) (state : MarkerState) : Spool :=
  { s with markers := s.markers.set key state }

/-- The spool without the marker of a session. -/
def Spool.eraseMarker (s : Spool) (key : SessionKey) : Spool := { s with markers := s.markers.erase key }

/-- The spool with a drop state, or without one. -/
def Spool.setDropState (s : Spool) (state : Option DropState) : Spool := { s with dropState := state }

/-- The spool with another entry. -/
def Spool.addEntry (s : Spool) (intake : CaptureIntake) : Spool :=
  { s with entries := s.entries ++ [intake] }

/-- The spool without an entry. -/
def Spool.eraseEntry (s : Spool) (intake : CaptureIntake) : Spool :=
  { s with entries := s.entries.filter (· ≠ intake) }

/-- The session of a key has no entry. -/
def Spool.IsOrphan (s : Spool) (key : SessionKey) : Prop := ∀ intake ∈ s.entries, intake.session ≠ key

section

variable {key : SessionKey} {marker : MarkerState} {intake : CaptureIntake} {state : DropState}

@[simp] theorem perform_entries :
    s.perform .entries = (s.entries.mergeSort drainsBefore, s) := rfl

@[simp] theorem perform_sessionMarkers : s.perform .sessionMarkers = (s.markers, s) := rfl

@[simp] theorem perform_dropState : s.perform .dropState = (s.dropState, s) := rfl

@[simp] theorem perform_sessionMarker :
    s.perform (.sessionMarker key) = (s.markers.get? key, s) := rfl

@[simp] theorem perform_markerNamed {tag : String} :
    s.perform (.markerNamed tag) = (s.markers.named? tag, s) := rfl

@[simp] theorem perform_backlog : s.perform .backlog = (s.entries.length, s) := rfl

@[simp] theorem perform_publishMarker :
    s.perform (.publishMarker key marker) = ((), s.setMarker key marker) := rfl

@[simp] theorem perform_publishEntry : s.perform (.publishEntry intake) = ((), s.addEntry intake) := rfl

@[simp] theorem perform_publishDropState :
    s.perform (.publishDropState state) = ((), s.setDropState (some state)) := rfl

@[simp] theorem perform_deleteEntry : s.perform (.deleteEntry intake) = ((), s.eraseEntry intake) := rfl

@[simp] theorem perform_deleteMarker : s.perform (.deleteMarker key) = ((), s.eraseMarker key) := rfl

@[simp] theorem perform_deleteDropState : s.perform .deleteDropState = ((), s.setDropState none) := rfl

end

/-! ## Names -/

theorem named?_eq_some {markers : SessionMarkers} {tag : String} {key : SessionKey} {marker : MarkerState} :
    markers.named? tag = some (key, marker)
      ↔ CaptureKey.sessionMarkerTag key = tag ∧ markers.get? key = some marker := by
  unfold SessionMarkers.named?
  constructor
  · intro h
    have htag := List.find?_some h
    exact ⟨by simpa using htag, Dict.get?_eq_some.mpr (List.mem_of_find?_eq_some h)⟩
  · rintro ⟨rfl, hget⟩
    have hmem := Dict.get?_eq_some.mp hget
    -- another marker of the name would be of the session, too
    obtain ⟨found, hfound⟩ : ∃ found, markers.items.find?
        (fun marker => CaptureKey.sessionMarkerTag marker.1 = CaptureKey.sessionMarkerTag key) = some found := by
      rw [← Option.isSome_iff_exists, List.find?_isSome]
      exact ⟨(key, marker), hmem, by simp⟩
    have htag := List.find?_some hfound
    have hkey : found.1 = key := CaptureKey.sessionMarkerTag_inj _ _ (by simpa using htag)
    have hget' : markers.get? key = some found.2 := by
      rw [← hkey]
      exact Dict.get?_eq_some.mpr (List.mem_of_find?_eq_some hfound)
    rw [hfound, ← hkey]
    rw [hget, Option.some.injEq] at hget'
    rw [hget']

theorem named?_eq_none {markers : SessionMarkers} {tag : String} :
    markers.named? tag = none ↔ ∀ key ∈ markers, CaptureKey.sessionMarkerTag key ≠ tag := by
  constructor
  · intro h key hkey htag
    obtain ⟨marker, hmarker⟩ := Dict.mem_iff.mp hkey
    rw [named?_eq_some.mpr ⟨htag, hmarker⟩] at h
    cases h
  · intro h
    cases hnamed : markers.named? tag with
    | none => rfl
    | some found =>
      obtain ⟨htag, hget⟩ := named?_eq_some.mp hnamed
      exact absurd htag (h found.1 (Dict.mem_of_get? hget))

/-! ## Markers -/

/-- A step on the files that reads, or is about a marker. -/
def SpoolFileRequest.isQuiet : SpoolFileRequest → Bool
  | .publishEntry _ | .publishDropState _ | .deleteEntry _ | .deleteDropState => false
  | _ => true

/-- A trace that does not observe what is read, or what happens to the markers. -/
def IsQuiet (observe : γ → (request : SpoolRequest) → Except SpoolError request.Reply → γ) : Prop :=
  ∀ g request reply, request.isQuiet = true → observe g (.file request) reply = g

variable (hquiet : IsQuiet observe)

include hquiet

theorem meets_quiet_bind {request : SpoolFileRequest} {f : request.Reply → Spooling α}
    (h : request.isQuiet = true) (hmay : may s g (.file request))
    (hf : (f (s.perform request).1).Meets (spoolSetting C observe may) post ((s.perform request).2, g)) :
    (request.ask >>= f).Meets (spoolSetting C observe may) post (s, g) := by
  refine meets_file_bind hmay fun _ => ?_
  rw [hquiet g request _ h]
  exact hf

namespace CaptureSpool

theorem meets_setSessionMarkerState {key : SessionKey} {state : MarkerState} {f : Unit → Spooling α}
    (hpublish : may s g (.file (.publishMarker key state)))
    (hread : may (s.setMarker key state) g (.file (.sessionMarker key)))
    (hf : (f ()).Meets (spoolSetting C observe may) post (s.setMarker key state, g)) :
    (setSessionMarkerState key state >>= f).Meets (spoolSetting C observe may) post (s, g) := by
  unfold setSessionMarkerState
  simp only [Program.bind_assoc]
  refine meets_quiet_bind hquiet rfl hpublish (meets_quiet_bind hquiet rfl hread ?_)
  refine Program.meets_lift_bind.mpr ⟨fun _ _ => hf, fun e he => ?_⟩
  rw [raiseIf_eq_error] at he
  exact absurd (Dict.get?_set_self (d := s.markers)) he.1

/-- A session that is sure to have a marker. -/
theorem meets_ensureSessionMarker {key : SessionKey} {f : MarkerState → Spooling α}
    (hread : may s g (.file (.sessionMarker key)))
    (hpublish : key ∉ s.markers → may s g (.file (.publishMarker key .pending)))
    (hreread : key ∉ s.markers → may (s.setMarker key .pending) g (.file (.sessionMarker key)))
    (hknown : ∀ marker, s.markers.get? key = some marker →
      (f marker).Meets (spoolSetting C observe may) post (s, g))
    (hnew : key ∉ s.markers →
      (f .pending).Meets (spoolSetting C observe may) post (s.setMarker key .pending, g)) :
    (ensureSessionMarker key >>= f).Meets (spoolSetting C observe may) post (s, g) := by
  unfold ensureSessionMarker
  rw [Program.bind_assoc]
  refine meets_quiet_bind hquiet rfl hread ?_
  rw [perform_sessionMarker]
  cases hmarker : s.markers.get? key with
  | some marker => exact hknown marker hmarker
  | none =>
    have hkey := Dict.get?_eq_none.mp hmarker
    dsimp only
    rw [Program.bind_assoc]
    exact meets_setSessionMarkerState hquiet (hpublish hkey) (hreread hkey) (hnew hkey)

end CaptureSpool

end SalienceGate
