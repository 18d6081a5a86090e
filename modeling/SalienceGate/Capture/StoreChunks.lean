import SalienceGate.Capture.StoreWrites

/-!
# What a chunk writes

A chunk is replayed, quarantines sessions, or has all of its intakes appended and its receipt written at their end.
-/

namespace SalienceGate

open Stateful

variable [CaptureKey] [CaptureTags]

namespace CaptureStore

variable {pending : Option SessionKey} {s s' : CaptureStore} {t u : CaptureTransaction} {key : SessionKey}
  {connection : CaptureConnection} {chunk : CaptureTransportChunk} {intakes : List CaptureIntake}
  {clock : ℕ → UtcDatetime}

/-! ## Receipts of earlier chunks -/

/-- What is written while nothing is pending may be written while a chunk is. -/
theorem Write.of_none (h : Write none s s') : Write pending s s' := by
  cases h with
  | mk other after connection hconnection hwritable hwrite =>
    refine .mk other after connection hconnection hwritable ?_
    cases hwrite with
    | create hnew hstate => exact .create hnew hstate
    | degrade hrow => exact .degrade hrow
    | quarantine hrow => exact .quarantine hrow
    | health hrow code hdegraded => exact .health hrow code hdegraded
    | extend hrow intake source transportFallback admittedAt hkey hauthentic hnew hopened hroom htail =>
      refine .extend hrow intake source transportFallback admittedAt hkey hauthentic hnew hopened hroom fun hprofile => ?_
      rcases htail hprofile with hnone | hspool
      · cases hnone
      · exact .inr hspool
    | require hrow hpending hprofile hopened hnone => cases hpending

theorem Writes.of_none (h : Writes none s s') : Writes pending s s' :=
  Relation.ReflTransGen.mono (fun _ _ (hwrite : Write none _ _) => hwrite.of_none) _ _ h

/-- The receipts of a session are those that it had before. -/
theorem Write.receipts (h : Write pending s s') {row : StoredSession} (hrow : s'.sessions.get? key = some row) :
    ∀ receipt ∈ row.receipts, ∃ before, s.sessions.get? key = some before ∧ receipt ∈ before.receipts := by
  intro receipt hreceipt
  cases h with
  | mk other after connection hconnection hwritable hwrite =>
    by_cases hsame : key = other
    · subst hsame
      rw [get?_put_self] at hrow
      cases hrow
      cases hwrite with
      | create _ _ => exact absurd hreceipt List.not_mem_nil
      | degrade hbefore => exact ⟨_, hbefore, hreceipt⟩
      | quarantine hbefore => exact ⟨_, hbefore, hreceipt⟩
      | health hbefore _ _ => exact ⟨_, hbefore, hreceipt⟩
      | extend hbefore _ _ _ _ _ _ _ _ _ _ => exact ⟨_, hbefore, hreceipt⟩
      | require hbefore _ _ _ _ => exact ⟨_, hbefore, hreceipt⟩
    · rw [get?_put_of_ne hsame] at hrow
      exact ⟨row, hrow, hreceipt⟩

theorem Writes.receipts (h : Writes pending s s') {row : StoredSession} (hrow : s'.sessions.get? key = some row) :
    ∀ receipt ∈ row.receipts, ∃ before, s.sessions.get? key = some before ∧ receipt ∈ before.receipts := by
  induction h generalizing row with
  | refl => exact fun receipt hreceipt => ⟨row, hrow, hreceipt⟩
  | tail _ hlast ih =>
    intro receipt hreceipt
    obtain ⟨before, hbefore, hmem⟩ := hlast.receipts hrow receipt hreceipt
    exact ih hbefore receipt hmem

omit [CaptureKey] [CaptureTags] in
/-- A receipt of a batch is one of a session of the connection. -/
theorem mem_batchRows {batchRef : Sha256Digest} {connectionId : ComponentIdentifier} {receipt : TransportRow} :
    (key, receipt) ∈ s.batchRows connectionId batchRef ↔ ∃ row, s.sessions.get? key = some row
      ∧ key.1 = connectionId ∧ receipt ∈ row.receipts ∧ receipt.batchRef = batchRef := by
  unfold batchRows
  rw [List.mem_flatMap]
  constructor
  · rintro ⟨⟨other, row⟩, hrow, hmem⟩
    split at hmem
    · next hconnection =>
      obtain ⟨found, hfound, hpair⟩ := List.mem_map.mp hmem
      cases hpair
      obtain ⟨hreceipt, hbatch⟩ := List.mem_filter.mp hfound
      exact ⟨row, Dict.get?_eq_some.mpr hrow, hconnection, hreceipt, of_decide_eq_true hbatch⟩
    · cases hmem
  · rintro ⟨row, hrow, hconnection, hreceipt, hbatch⟩
    refine ⟨(key, row), Dict.get?_eq_some.mp hrow, ?_⟩
    rw [if_pos hconnection]
    exact List.mem_map.mpr ⟨receipt, List.mem_filter.mpr ⟨hreceipt, decide_eq_true hbatch⟩, rfl⟩

/-- No receipt of the connection stands in the way of one for the chunk. -/
def Unreceipted (s : CaptureStore) (chunk : CaptureTransportChunk) : Prop :=
  ∀ key row, s.sessions.get? key = some row → key.1 = chunk.connectionId → ∀ receipt ∈ row.receipts,
    receipt.batchRef = chunk.batchRef →
      key = chunk.session ∧ receipt.chunkCount = chunk.chunkCount ∧ receipt.chunkIndex ≠ chunk.chunkIndex

theorem Unreceipted.writes (h : Unreceipted s chunk) (hwrites : Writes pending s s') : Unreceipted s' chunk := by
  intro key row hrow hconnection receipt hreceipt hbatch
  obtain ⟨before, hbefore, hmem⟩ := hwrites.receipts hrow receipt hreceipt
  exact h key before hbefore hconnection receipt hmem hbatch

/-! ## Chunks that are refused -/

theorem verifyTransportSession_eq_ok {allowPendingEventTail : Bool} {incomplete : ℕ}
    (h : verifyTransportSession key allowPendingEventTail t = .ok incomplete u) : u = t := by
  unfold verifyTransportSession at h
  obtain ⟨connection, -, h⟩ := connectionRow_bind_eq_ok.mp h
  obtain ⟨row, -, h⟩ := sessionRow_bind_eq_ok.mp h
  exact (lift_eq_ok.mp h).2.symm

theorem transportFailureReceipt_eq_ok {disposition : CaptureTransportDisposition} {intakeCount : ℕ}
    {receipt : CaptureTransportReceipt} (h : transportFailureReceipt chunk disposition intakeCount t = .ok receipt u) :
    u = t ∧ receipt.disposition = disposition := by
  unfold transportFailureReceipt at h
  obtain ⟨incomplete, v, hverify, h⟩ := bind_eq_ok.mp h
  cases verifyTransportSession_eq_ok hverify
  obtain ⟨row, -, h⟩ := sessionRow_bind_eq_ok.mp h
  cases h
  exact ⟨rfl, rfl⟩

variable (pending) in
/-- A chunk that is refused quarantines its session and those that it is given. -/
theorem quarantineChunk_writes {code : CaptureHealthCode} {disposition : CaptureTransportDisposition} {intakeCount : ℕ}
    {affected : List SessionKey} {receipt : CaptureTransportReceipt} {written : Bool}
    (h : quarantineChunk chunk code disposition intakeCount affected t = .ok (receipt, written) u)
    (hconnection : t.store.connections.get? chunk.connectionId = some connection)
    (haffected : ∀ key ∈ affected, key.1 = chunk.connectionId) :
    Writes pending t.store u.store ∧ receipt.disposition = disposition ∧ written = true
      ∧ ∀ key ∈ chunk.session :: affected, Quarantined u.store key code := by
  unfold quarantineChunk at h
  obtain ⟨⟨⟩, v, hloop, h⟩ := bind_eq_ok.mp h
  obtain ⟨again, w, hreceipt, hpure⟩ := bind_eq_ok.mp h
  obtain ⟨rfl, hdisposition⟩ := transportFailureReceipt_eq_ok hreceipt
  cases hpure
  have hkeys : ∀ key, key ∈ ((chunk.session :: affected).dedup.mergeSort sessionBefore)
      ↔ key ∈ chunk.session :: affected := fun key => by rw [List.mem_mergeSort, List.mem_dedup]
  obtain ⟨hwrites, hquarantined⟩ := forM_quarantines pending hloop fun key hkey v w hround hsame => by
    have hsession : v.store.connections.get? key.1 = some connection := by
      rw [hsame]
      rcases List.mem_cons.mp ((hkeys key).mp hkey) with rfl | hkey
      · exact hconnection
      · rw [haffected key hkey]
        exact hconnection
    exact quarantineTransportSession_writes pending hround hsession
  exact ⟨hwrites, hdisposition, rfl, fun key hkey => hquarantined key ((hkeys key).mpr hkey)⟩

/-! ## Chunks that are admitted -/

/-- The intakes of a chunk are appended while it is pending, up to one that is not admitted. -/
theorem admitIntakes_writes {position : ℕ} {failure : Option ChunkFailure}
    (h : admitIntakes chunk clock position intakes t = .ok failure u)
    (hauthentic : ∀ intake ∈ intakes, CaptureKey.authenticates intake = true)
    (hsession : ∀ intake ∈ intakes, intake.session = chunk.session) :
    Writes (some chunk.session) t.store u.store
      ∧ ∀ disposition prior, failure = some (disposition, prior) → ∀ key ∈ prior, key.1 = chunk.connectionId := by
  induction intakes generalizing position t with
  | nil =>
    cases h
    exact ⟨.refl, fun _ _ hnone => by cases hnone⟩
  | cons intake rest ih =>
    unfold admitIntakes at h
    rw [get_bind] at h
    obtain ⟨appended, v, happend, h⟩ := bind_eq_ok.mp h
    obtain ⟨connection, -, -, hwrites, -⟩ := appendAuthenticated_writes (some chunk.session) happend
      (hauthentic intake List.mem_cons_self) fun _ => congrArg some (hsession intake List.mem_cons_self).symm
    have hauthentics := fun other hother => hauthentic other (List.mem_cons_of_mem intake hother)
    have hsessions := fun other hother => hsession other (List.mem_cons_of_mem intake hother)
    cases hdisposition : appended.disposition with
    | admitted =>
      rw [hdisposition] at h
      obtain ⟨hrest, hprior⟩ := ih (t := { v with verified := _ }) h hauthentics hsessions
      exact ⟨hwrites.trans hrest, hprior⟩
    | replayed =>
      rw [hdisposition] at h
      obtain ⟨hrest, hprior⟩ := ih h hauthentics hsessions
      exact ⟨hwrites.trans hrest, hprior⟩
    | overflow =>
      rw [hdisposition] at h
      cases h
      exact ⟨hwrites, fun _ _ hsome key hkey => by cases hsome; cases hkey⟩
    | quarantined =>
      rw [hdisposition] at h
      cases h
      refine ⟨hwrites, fun _ _ hsome key hkey => ?_⟩
      cases hsome
      obtain ⟨⟨_, event⟩, hevent, rfl⟩ := Option.map_eq_some_iff.mp hkey
      obtain ⟨-, -, hconnection, -⟩ := eventOf_eq_some hevent
      rw [hconnection]
      exact congrArg Prod.fst (hsession intake List.mem_cons_self)

/-- What a chunk wrote, if it wrote. A session from before the receipts of its bridge has entered its transport even if
the chunk was refused. -/
inductive ChunkWrites (chunk : CaptureTransportChunk) (intakes : List CaptureIntake) (store next : CaptureStore) : Prop
  | refused (hwrites : Writes none store next)
  | receipted {last : CaptureStore} (hwrites : Writes (some chunk.session) store last)
      (hreceipted : Receipted chunk intakes last next)
  | upgraded {row : StoredSession} {connection : CaptureConnection}
      (hconnection : store.connections.get? chunk.connectionId = some connection)
      (hprofile : connection.profile.isTransport = true) (hrow : store.sessions.get? chunk.session = some row)
      (hnone : row.session.transportHeadTag = none) (hwrites : Writes (some chunk.session) store next)

variable (pending) in
/-- A chunk whose intakes are all admitted gets its receipt, and any other is refused. -/
theorem admitChunk_writes {receipt : CaptureTransportReceipt} {written : Bool}
    (h : admitChunk chunk intakes clock t = .ok (receipt, written) u)
    (hauthentic : ∀ intake ∈ intakes, CaptureKey.authenticates intake = true)
    (hsession : ∀ intake ∈ intakes, intake.session = chunk.session) (hready : Ready t chunk.session connection)
    (hprofile : connection.profile.isTransport = true) (hunreceipted : Unreceipted t.store chunk) :
    Writes pending t.store u.store
      ∨ ∃ last, Writes (some chunk.session) t.store last ∧ Receipted chunk intakes last u.store := by
  unfold admitChunk at h
  rw [get_bind] at h
  obtain ⟨failure, v, hadmit, h⟩ := bind_eq_ok.mp h
  obtain ⟨hwrites, hprior⟩ := admitIntakes_writes hadmit hauthentic hsession
  cases failure with
  | some failed =>
    obtain ⟨disposition, prior⟩ := failed
    left
    -- The rows are those before the first intake again.
    refine (quarantineChunk_writes pending (t := { v with store := t.store }) h hready.connection fun key hkey => ?_).1
    exact hprior disposition prior rfl key (Option.mem_toList.mp hkey)
  | none =>
    obtain ⟨row, hrow, h⟩ := sessionRow_bind_eq_ok.mp h
    obtain ⟨tail, w, htail, h⟩ := bind_eq_ok.mp h
    cases verifyTransportSession_eq_ok htail
    rw [expect_bind_eq_ok] at h
    obtain ⟨head, hhead, h⟩ := h
    split at h
    · left
      exact (quarantineChunk_writes pending (t := { v with store := t.store }) h hready.connection fun key hkey =>
        absurd hkey List.not_mem_nil).1
    · next hroom =>
      right
      obtain ⟨incomplete, w, hverify, hpure⟩ := bind_eq_ok.mp (putSession_bind_eq_ok.mp h)
      cases verifyTransportSession_eq_ok hverify
      cases hpure
      have hnext := hready.next hwrites
      exact ⟨v.store, hwrites, .mk _ row head connection hnext.connection hprofile hnext.writable hrow hhead
        (Nat.lt_of_not_le hroom) (hunreceipted.writes hwrites)⟩

/-- A session from before the receipts of its bridge enters its transport. -/
theorem requireTransport_eq_ok {row : StoredSession} (h : requireTransport key row t = .ok () u) :
    u = { t with store := t.store.put key (required key row) } := by
  unfold requireTransport at h
  obtain ⟨pending, v, hverify, hpure⟩ := bind_eq_ok.mp (putSession_bind_eq_ok.mp h)
  cases verifyTransportSession_eq_ok hverify
  cases hpure
  rfl

/-- A chunk without a receipt, of a batch that is its session's alone. -/
theorem extendChunks_writes {receipt : CaptureTransportReceipt}
    (h : extendChunks chunk intakes clock t = .ok (receipt, true) u)
    (hauthentic : ∀ intake ∈ intakes, CaptureKey.authenticates intake = true)
    (hsession : ∀ intake ∈ intakes, intake.session = chunk.session)
    (hconnection : t.store.connections.get? chunk.connectionId = some connection)
    (hprofile : connection.profile.isTransport = true) (hunreceipted : Unreceipted t.store chunk) :
    ChunkWrites chunk intakes t.store u.store := by
  unfold extendChunks at h
  obtain ⟨hwritable, h⟩ := appendSessionRow_bind_eq_ok.mp h
  have hready : Ready t chunk.session connection := ⟨hconnection, hwritable⟩
  have hnone : ∀ key ∈ ([] : List SessionKey), key.1 = chunk.connectionId := fun key hkey => absurd hkey List.not_mem_nil
  cases hfound : t.store.sessions.get? chunk.session with
  | none =>
    rw [hfound] at h
    obtain ⟨-, h⟩ := raiseIf_bind_eq_ok.mp h
    rcases admitChunk_writes none h hauthentic hsession hready hprofile hunreceipted with
      hwrites | ⟨last, hwrites, hreceipted⟩
    · exact .refused hwrites
    · exact .receipted hwrites hreceipted
  | some row =>
    rw [hfound] at h
    obtain ⟨⟨⟩, v, hverify, h⟩ := bind_eq_ok.mp h
    obtain ⟨hsame, -⟩ := verifyAppendCommitment_eq_ok hverify
    have hkept : Writes none t.store v.store := by rw [hsame]
    have hagain : Ready v chunk.session connection := hready.next hkept
    dsimp only at h
    split at h
    · obtain ⟨-, h⟩ := check_bind_eq_ok.mp h
      obtain ⟨failed, w, -, hpure⟩ := bind_eq_ok.mp h
      cases hpure
    · split at h
      · obtain ⟨-, h⟩ := check_bind_eq_ok.mp h
        have hwrites := (quarantineChunk_writes none h hagain.connection hnone).1
        rw [hsame] at hwrites
        exact .refused hwrites
      · next hopen =>
        rw [not_not] at hopen
        obtain ⟨incomplete, w, hverify, h⟩ := bind_eq_ok.mp h
        cases verifyTransportSession_eq_ok hverify
        -- What follows once the session is in its transport.
        have hrest : ∀ {w : CaptureTransaction}, Ready w chunk.session connection → Unreceipted w.store chunk →
            (sessionRow chunk.session >>= fun current => (do
              let head ← Checked.expect current.transportHead CaptureStoreError.integrity
              if maxCaptureTransportChunksPerSession ≤ head.receiptCount then
                quarantineChunk chunk .sessionOverflow .overflow intakes.length []
              else admitChunk chunk intakes clock : StoreM (CaptureTransportReceipt × Bool))) w = .ok (receipt, true) u →
            Writes none w.store u.store
              ∨ ∃ last, Writes (some chunk.session) w.store last ∧ Receipted chunk intakes last u.store := by
          intro w hready hunreceipted hw
          obtain ⟨current, -, hw⟩ := sessionRow_bind_eq_ok.mp hw
          rw [expect_bind_eq_ok] at hw
          obtain ⟨head, -, hw⟩ := hw
          split at hw
          · exact .inl (quarantineChunk_writes none hw hready.connection hnone).1
          · exact admitChunk_writes none hw hauthentic hsession hready hprofile hunreceipted
        by_cases hlegacy : row.session.transportHeadTag = none
        · rw [if_pos hlegacy] at h
          obtain ⟨⟨⟩, w, hrequire, h⟩ := bind_eq_ok.mp h
          cases requireTransport_eq_ok hrequire
          have hrequired : Write (some chunk.session) t.store (v.store.put chunk.session (required chunk.session row)) := by
            rw [hsame]
            exact hready.write (.require hfound rfl hprofile hopen hlegacy)
          rcases hrest (hready.next (.single hrequired)) (hunreceipted.writes (.single hrequired)) h with
            hwrites | ⟨last, hwrites, hreceipted⟩
          · exact .upgraded hconnection hprofile hfound hlegacy (.head hrequired hwrites.of_none)
          · exact .receipted (.head hrequired hwrites) hreceipted
        · rw [if_neg hlegacy] at h
          rcases hrest hagain (by rw [hsame]; exact hunreceipted) h with hwrites | ⟨last, hwrites, hreceipted⟩
          · rw [hsame] at hwrites
            exact .refused hwrites
          · rw [hsame] at hwrites
            exact .receipted hwrites hreceipted

/-- A chunk whose index has a receipt writes nothing, or is refused. -/
theorem replayChunk_writes {existing : TransportRow} {receipt : CaptureTransportReceipt}
    (h : replayChunk chunk intakes key existing t = .ok (receipt, true) u)
    (hconnection : t.store.connections.get? chunk.connectionId = some connection)
    (hkey : key.1 = chunk.connectionId) : Writes none t.store u.store := by
  unfold replayChunk at h
  obtain ⟨incomplete, v, hverify, h⟩ := bind_eq_ok.mp h
  cases verifyTransportSession_eq_ok hverify
  split at h
  · obtain ⟨same, -, h⟩ := connectionRow_bind_eq_ok.mp h
    obtain ⟨row, -, h⟩ := sessionRow_bind_eq_ok.mp h
    obtain ⟨-, h⟩ := check_bind_eq_ok.mp h
    obtain ⟨-, hpure⟩ := raiseIf_bind_eq_ok.mp h
    cases hpure
  · refine (quarantineChunk_writes _ h hconnection fun other hother => ?_).1
    rw [List.mem_singleton.mp hother]
    exact hkey

/-- The transport of the sessions of a batch is verified, and nothing is written. -/
theorem forM_verify_eq_ok {keys : List SessionKey}
    (h : (keys.forM fun key => do let _ ← verifyTransportSession key) t = .ok () u) : u = t := by
  induction keys generalizing t with
  | nil =>
    cases h
    rfl
  | cons first rest ih =>
    obtain ⟨⟨⟩, v, hfirst, hrest⟩ := bind_eq_ok.mp h
    obtain ⟨incomplete, w, hverify, hpure⟩ := bind_eq_ok.mp hfirst
    cases verifyTransportSession_eq_ok hverify
    cases hpure
    exact ih hrest

/-- What a chunk that wrote has written. -/
theorem chunkAuthenticated_writes {receipt : CaptureTransportReceipt}
    (h : chunkAuthenticated chunk intakes clock t = .ok (receipt, true) u)
    (hauthentic : ∀ intake ∈ intakes, CaptureKey.authenticates intake = true)
    (hsession : ∀ intake ∈ intakes, intake.session = chunk.session) : ChunkWrites chunk intakes t.store u.store := by
  unfold chunkAuthenticated at h
  obtain ⟨connection, hconnection, h⟩ := connectionRow_bind_eq_ok.mp h
  obtain ⟨hguard, h⟩ := raiseIf_bind_eq_ok.mp h
  have hprofile : connection.profile.isTransport = true := by
    by_contra hne
    exact hguard (.inl (Bool.eq_false_of_not_eq_true hne))
  rw [get_bind] at h
  have hbatch : ∀ key receipt, (key, receipt) ∈ t.store.batchRows chunk.connectionId chunk.batchRef →
      key.1 = chunk.connectionId := fun key receipt hmem => (mem_batchRows.mp hmem).choose_spec.2.1
  cases hfind : (t.store.batchRows chunk.connectionId chunk.batchRef).find? fun entry =>
      decide (entry.2.chunkIndex = chunk.chunkIndex) with
  | some found =>
    obtain ⟨existingKey, existing⟩ := found
    rw [hfind] at h
    exact .refused (replayChunk_writes h hconnection (hbatch _ _ (List.mem_of_find?_eq_some hfind)))
  | none =>
    rw [hfind] at h
    obtain ⟨⟨⟩, v, hloop, h⟩ := bind_eq_ok.mp h
    cases forM_verify_eq_ok hloop
    split at h
    · refine .refused (quarantineChunk_writes _ h hconnection fun key hkey => ?_).1
      obtain ⟨⟨key, receipt⟩, hmem, rfl⟩ := List.mem_map.mp (List.mem_dedup.mp hkey)
      exact hbatch key receipt hmem
    · next hother =>
      refine extendChunks_writes h hauthentic hsession hconnection hprofile ?_
      intro key row hrow hkey receipt hreceipt hsame
      have hmem : (key, receipt) ∈ t.store.batchRows chunk.connectionId chunk.batchRef :=
        mem_batchRows.mpr ⟨row, hrow, hkey, hreceipt, hsame⟩
      have hown : ¬(key ≠ chunk.session ∨ receipt.chunkCount ≠ chunk.chunkCount) :=
        fun hforeign => hother ⟨(key, receipt), hmem, hforeign⟩
      rw [not_or, not_not, not_not] at hown
      refine ⟨hown.1, hown.2, fun hindex => ?_⟩
      exact List.find?_eq_none.mp hfind (key, receipt) hmem (decide_eq_true hindex)

/-! ## Health -/

variable (pending) in
/-- A session whose health is marked loses its coverage. -/
theorem markAuthenticated_writes {code : CaptureHealthCode} (h : markAuthenticated key code t = .ok () u) :
    Writes pending t.store u.store := by
  unfold markAuthenticated at h
  obtain ⟨connection, hconnection, h⟩ := connectionRow_bind_eq_ok.mp h
  obtain ⟨-, h⟩ := raiseIf_bind_eq_ok.mp h
  obtain ⟨hwritable, h⟩ := appendSessionRow_bind_eq_ok.mp h
  have hready : Ready t key connection := ⟨hconnection, hwritable⟩
  have hrecord : ∀ {v : CaptureTransaction} (row : StoredSession), v.store.sessions.get? key = some row →
      row.session.coverageDegraded = true → Writes pending t.store v.store → recordHealth key code v = .ok () u →
      Writes pending t.store u.store := by
    intro v row hrow hdegraded hwrites hv
    obtain ⟨again, hagain, rfl⟩ := recordHealth_eq_ok hv
    rw [hrow] at hagain
    cases hagain
    exact hwrites.tail ((hready.next hwrites).write (.health hrow code hdegraded))
  cases hfound : t.store.sessions.get? key with
  | none =>
    rw [hfound] at h
    obtain ⟨created, v, hcreate, hlast⟩ := bind_eq_ok.mp h
    unfold createDegradedSession at hcreate
    obtain ⟨same, hsame, hput⟩ := connectionRow_bind_eq_ok.mp hcreate
    rw [hconnection] at hsame
    cases hsame
    cases hput
    refine hrecord _ get?_put_self rfl (.single (hready.write ?_)) hlast
    exact .create (Dict.get?_eq_none.mp hfound) (.inr ⟨rfl, rfl⟩)
  | some row =>
    rw [hfound] at h
    obtain ⟨⟨⟩, v, hverify, h⟩ := bind_eq_ok.mp h
    obtain ⟨hsame, -⟩ := verifyAppendCommitment_eq_ok hverify
    refine hrecord (degraded row row.session.state) get?_put_self rfl ?_ (updateSession_bind_eq_ok.mp h)
    show Writes pending t.store (v.store.put key _)
    rw [hsame]
    exact .single (hready.write (.degrade hfound))

end CaptureStore

end SalienceGate
