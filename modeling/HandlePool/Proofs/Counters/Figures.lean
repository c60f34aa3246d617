import HandlePool.Proofs.Config.RoundTrip
import HandlePool.Proofs.Facade.Calls
import HandlePool.Proofs.Pool.Conservation

/-!
# Figures of snapshots that were read

A document may give any counters that fit in 64 bits one by one, also such as no
pool ever counts.  The figures of a snapshot that was read are exact as long as
their sums fit in 64 bits too, and stop otherwise.  In a document that two pools
wrote they fit until the pools together have answered 2^64 requests.
-/

namespace HandlePool

/-! ## Documents for all snapshots -/

theorem Snapshot.ofDocument_document
    (snapshot : Snapshot) :
    ofDocument (Utf8.encode (document snapshot).toList) = .ok snapshot :=
  Json.readDocument_of_reads (reads_layouts snapshot)
    (document_mem_layouts snapshot)

theorem FacadeSnapshot.ofDocument_document
    (snapshot : FacadeSnapshot) :
    ofDocument (Utf8.encode snapshot.document.toList) = .ok snapshot :=
  Json.readDocument_of_reads snapshot.reads_layouts
    snapshot.document_mem_layouts

/-! ## Documents of pools -/

section Sessions

variable {η : Type} [TrackedHandle η]

namespace Session.Balanced

/-- What a session has counted is shown, up to 2^64 requests. -/
theorem counts_snapshot
    {config : PoolConfig}
    {session : Session η}
    (balanced : Balanced config session)
    (few : session.requests < UInt64.size) :
    Snapshot.counts session.pool.counters.snapshot = session.pool.counters :=
  Counters.map_toNat_snapshot fun value listed =>
    Nat.lt_of_le_of_lt (balanced.le_requests value listed) few

theorem answered
    {config : PoolConfig}
    {session : Session η}
    (balanced : Balanced config session)
    (few : session.requests < UInt64.size) :
    Snapshot.Answered session.pool.counters.snapshot := by
  apply Snapshot.answered_of_lt
  · rw [balanced.counts_snapshot few]
    exact Nat.lt_of_le_of_lt balanced.removals_le_requests few
  · rw [balanced.counts_snapshot few, Counters.lookups,
      balanced.tallied.requests_eq]
    exact few

/-- Both pools together count no more than the requests to either. -/
theorem answered_both
    {readConfig writeConfig : PoolConfig}
    {read write : Session η}
    (readBalanced : Balanced readConfig read)
    (writeBalanced : Balanced writeConfig write)
    (few : read.requests + write.requests < UInt64.size) :
    FacadeSnapshot.Answered
      ⟨read.pool.counters.snapshot, write.pool.counters.snapshot⟩ := by
  have readFew : read.requests < UInt64.size := Nat.lt_of_add_right_lt few
  have writeFew : write.requests < UInt64.size := Nat.lt_of_add_left_lt few
  have readShown := readBalanced.counts_snapshot readFew
  have writeShown := writeBalanced.counts_snapshot writeFew
  have fit {readCount writeCount : Nat}
      (readListed : readCount ∈ read.pool.counters.toList)
      (writeListed : writeCount ∈ write.pool.counters.toList) :
      readCount + writeCount < UInt64.size :=
    Nat.lt_of_le_of_lt (Nat.add_le_add (readBalanced.le_requests _ readListed)
      (writeBalanced.le_requests _ writeListed)) few
  refine FacadeSnapshot.answered_of_lt (readBalanced.answered readFew)
    (writeBalanced.answered writeFew) ?_ ?_
  · simp only [readShown, writeShown]
    exact fit (by simp [Tally.toList]) (by simp [Tally.toList])
  · simp only [readShown, writeShown]
    exact fit (by simp [Tally.toList]) (by simp [Tally.toList])

end Session.Balanced

/-- Whatever document a snapshot was read from, its figures are made of the
exact sums of its counters, or stop where these sums do not fit in 64 bits; and
every snapshot is read from some document, so there are documents for either.
What is written of the two pools of a façade is read back with the counters of
these pools, and no figure stops as long as both together were asked for a
handle less than 2^64 times. -/
theorem figures_of_documents :
    (∀ document snapshot, Snapshot.ofDocument document = .ok snapshot →
      Snapshot.Figures snapshot) ∧
    (∀ document snapshot, FacadeSnapshot.ofDocument document = .ok snapshot →
      snapshot.Figures) ∧
    (∀ snapshot, ∃ document, Snapshot.ofDocument document = .ok snapshot) ∧
    (∀ snapshot, ∃ document, FacadeSnapshot.ofDocument document =
      .ok snapshot) ∧
    ∀ (config : FacadeConfig) (turns : Side → List (Turn η)),
      config.validate = .ok () →
      (∀ side, ∀ turn ∈ turns side, turn.call.OpensFresh) →
      let session := fun side =>
        Session.run side.name (config.pool side) (turns side)
      (session .read).requests + (session .write).requests < UInt64.size →
      let snapshot : FacadeSnapshot :=
        ⟨(session .read).pool.counters.snapshot,
          (session .write).pool.counters.snapshot⟩
      FacadeSnapshot.ofDocument (Utf8.encode snapshot.document.toList) =
        .ok snapshot ∧ snapshot.read.counts = (session .read).pool.counters ∧
        snapshot.write.counts = (session .write).pool.counters ∧
        snapshot.Answered := by
  refine ⟨fun _ snapshot _ => Snapshot.figures snapshot, fun _ snapshot _ =>
    snapshot.figures,
    fun snapshot => ⟨_, Snapshot.ofDocument_document snapshot⟩,
    fun snapshot => ⟨_, snapshot.ofDocument_document⟩, ?_⟩
  intro config turns valid newHandles session few snapshot
  have balanced (side : Side) :
      Session.Balanced (config.pool side) (session side) :=
    Session.balanced_run side.name (config.roomy_of_validate valid side).1
      (newHandles side)
  have readFew : (session .read).requests < UInt64.size :=
    Nat.lt_of_add_right_lt few
  have writeFew : (session .write).requests < UInt64.size :=
    Nat.lt_of_add_left_lt few
  refine ⟨snapshot.ofDocument_document, ?_, ?_, ?_⟩
  · exact (balanced .read).counts_snapshot readFew
  · exact (balanced .write).counts_snapshot writeFew
  · exact (balanced .read).answered_both (balanced .write) few

end Sessions

/-- A document with the counters of both pools in their order, whose sums all
come to the greatest number of 64 bits. -/
def fullestDocument : List UInt8 :=
  Utf8.encode
    "[[18446744073709551614, 1, 18446744073709551614, 0, 18446744073709551614, 0,
       18446744073709551612, 1, 1, 1],
      [0, 0, 1, 0, 1, 0, 0, 0, 0, 0]]".toList

/-- What is read from that document. -/
def fullest : FacadeSnapshot where
  read := ⟨18446744073709551614, 1, 18446744073709551614, 0,
    18446744073709551614, 0, 18446744073709551612, 1, 1, 1⟩
  write := ⟨0, 0, 1, 0, 1, 0, 0, 0, 0, 0⟩

/-- All figures of that document are answered, and so are those of
pools after some calls. -/
theorem figures_of_documents_of_fullest :
    (FacadeSnapshot.ofDocument fullestDocument = .ok fullest ∧
      fullest.read.removals = .ok 18446744073709551615 ∧
      fullest.read.hitRate = .ok (fullest.read.share 18446744073709551615) ∧
      fullest.totalOpens = .ok 18446744073709551615 ∧
      fullest.totalCloses = .ok 18446744073709551615) ∧
    let session := fun side : Side =>
      Session.run side.name (FacadeConfig.pool {} side) Session.mixedTurns
    let snapshot : FacadeSnapshot :=
      ⟨(session .read).pool.counters.snapshot,
        (session .write).pool.counters.snapshot⟩
    snapshot.read.counts = ⟨1, 3, 2, 1, 1, 1, 1, 0, 0, 0⟩ ∧
      snapshot.Answered := by
  obtain ⟨-, exactly, -, -, written⟩ := @figures_of_documents TrialHandle _
  constructor
  · have isRead : FacadeSnapshot.ofDocument fullestDocument = .ok fullest := by
      decide +kernel
    obtain ⟨⟨removals, hitRate⟩, -, opens, closes⟩ := exactly _ _ isRead
    exact ⟨isRead, removals.eq_ok (by decide), hitRate.eq_ok (by decide),
      opens.eq_ok (by decide), closes.eq_ok (by decide)⟩
  · have newHandles : ∀ turn ∈ Session.mixedTurns, turn.call.OpensFresh := by
      simp [Session.mixedTurns, PoolCall.OpensFresh, TrackedHandle.IsFresh,
        Handle.isOpen, TrackedHandle.closeCalls]
    obtain ⟨-, shown, -, answered⟩ := written {} (fun _ => Session.mixedTurns)
      (by decide +kernel) (fun _ => newHandles) (by decide)
    exact ⟨shown.trans (by decide), answered⟩

/-- A document with a hit, a removal, an opening and a closing too many. -/
def overfullDocument : List UInt8 :=
  Utf8.encode
    "[[18446744073709551615, 1, 18446744073709551615, 0, 18446744073709551615, 0,
       18446744073709551612, 1, 1, 2],
      [0, 0, 1, 0, 1, 0, 0, 0, 0, 0]]".toList

/-- What is read from that document. -/
def overfull : FacadeSnapshot where
  read := ⟨18446744073709551615, 1, 18446744073709551615, 0,
    18446744073709551615, 0, 18446744073709551612, 1, 1, 2⟩
  write := ⟨0, 0, 1, 0, 1, 0, 0, 0, 0, 0⟩

/-- That document is read as well, and not one of these figures is answered. -/
theorem unanswered_of_overfull :
    FacadeSnapshot.ofDocument overfullDocument = .ok overfull ∧
      overfull.read.removals = .error .sumOverflow ∧
      overfull.read.hitRate = .error .sumOverflow ∧
      overfull.totalOpens = .error .sumOverflow ∧
      overfull.totalCloses = .error .sumOverflow := by
  refine ⟨by decide +kernel, ?_⟩
  obtain ⟨⟨removals, hitRate⟩, -, opens, closes⟩ := overfull.figures
  exact ⟨removals.eq_error_of_le (by decide),
    hitRate.eq_error_of_le (by decide),
    opens.eq_error_of_le (by decide), closes.eq_error_of_le (by decide)⟩

end HandlePool
