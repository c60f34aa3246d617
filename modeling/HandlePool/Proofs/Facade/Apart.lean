import HandlePool.Proofs.Facade.Visits

/-!
# The two pools of a façade do not interfere

What is done on one side of a façade leaves the pool on the other side alone,
and what happens to a pool depends on nothing but that pool, the time, where
relative paths start, and what the store answers.  So a session in which all
requests to one side are left out shows the same on the other side, as long as
the store, in whatever state it is found then, gives the other visits the
answers that it gave them before, when it was asked.
-/

namespace HandlePool

/-- The other side. -/
def Side.other : Side → Side
  | .read => .write
  | .write => .read

theorem Side.ne_iff
    {left right : Side} :
    left ≠ right ↔ left = right.other := by
  cases left <;> cases right <;> decide

variable {σ : Type}

/-- The side that an operation is about, if it is about one. -/
def Operation.side? : Operation σ → Option Side
  | .request asked => some asked.side
  | .inside side _ => some side
  | .transfer issued _ => some issued.side
  | _ => none

/-- The visit asks for a handle on that side. -/
def Visit.asksOn (visit : Visit σ) (side : Side) : Bool :=
  match visit.operation with
  | .request request => request.side == side
  | _ => false

/-- The path that an operation has the façade resolve, if it
has one, is absolute. -/
def Operation.isAbsolute : Operation σ → Bool
  | .request asked => asked.path.isAbsolute
  | .createFile path _ | .delete path => path.isAbsolute
  | _ => true

/-- What a store says to an operation. -/
inductive StoreAnswer where
  | opened (answer : Except IoError FileHandle)
  | path (answer : Except IoError Path)
  | outcome (answer : Except IoError Unit)
  | transferred (change : FileHandle → FileHandle)
  /-- The store is not asked. -/
  | silent

section Answers

variable [FileStore σ]

/-- What the store says to an operation if it is asked. -/
def Operation.answer (store : σ) : Operation σ → StoreAnswer
  | .request asked =>
      .opened ((asked.opening (FileStore.workingDirectory store)).bind
        fun opening =>
        (FileStore.openFile opening.1.path asked.mode store).1)
  | .createFile path permissions =>
      .path ((Resolved.ofPath (FileStore.workingDirectory store) path).bind
        fun resolved =>
        (FileStore.createFile resolved.path permissions store).1)
  | .delete path =>
      .outcome ((Resolved.ofPath (FileStore.workingDirectory store) path).bind
        fun resolved => (FileStore.delete resolved.path store).1)
  | .createDirectories path => .path (FileStore.createDirectories path store).1
  | .setPermissions path permissions =>
      .path (FileStore.setPermissions path permissions store).1
  | .transfer _ moves => .transferred fun handle => (moves.run handle store).1
  | .closeAll | .settle | .inside .. => .silent

end Answers

/-- An absolute path comes to the same wherever relative ones start. -/
theorem Resolved.ofPath_congr
    {base other : AbsolutePath}
    {path : Path}
    (sameBase : path.isAbsolute = false → base = other) :
    ofPath base path = ofPath other path := by
  cases absolute : path.isAbsolute with
  | false => rw [sameBase absolute]
  | true =>
      rw [ofPath, ofPath, Path.normalize_of_isAbsolute absolute base other]

theorem FileRequest.opening_congr
    {base other : AbsolutePath}
    {request : FileRequest}
    (sameBase : request.path.isAbsolute = false → base = other) :
    request.opening base = request.opening other := by
  have same := Resolved.ofPath_congr sameBase
  cases request <;> simp only [path] at same <;> simp only [opening, same]

/-- What is returned by opening a key that is missing, and what becomes of the
pool, depends on nothing but what the opener returns. -/
theorem Pool.openMissing_congr
    {η α : Type}
    [Handle η]
    (pool : Pool η)
    (time : CallTime)
    (key : String)
    {opener : α → Except IoError η × α}
    {left right : α}
    (sameAnswer : (opener left).1 = (opener right).1) :
    (pool.openMissing time key opener left).1 =
      (pool.openMissing time key opener right).1 ∧
      (pool.openMissing time key opener left).2.1 =
        (pool.openMissing time key opener right).2.1 := by
  unfold openMissing
  rcases gaveLeft : opener left with ⟨answer, leftAfter⟩
  rcases gaveRight : opener right with ⟨other, rightAfter⟩
  rw [gaveLeft, gaveRight] at sameAnswer
  obtain rfl : answer = other := sameAnswer
  cases answer with
  | error error => exact ⟨rfl, rfl⟩
  | ok handle => exact ⟨rfl, rfl⟩

namespace Facade

/-- The operation is a request for what is kept; then the store is not asked. -/
def hits [FileStore σ] (facade : Facade σ) (time : CallTime) :
    Operation σ → Bool
  | .request request =>
      match facade.opening request with
      | .ok (resolved, _) =>
          (facade.pool request.side).contains time.starts resolved.key
      | .error _ => false
  | _ => false

/-! ## What happens on one side -/

/-- A pool is called in its own state. -/
theorem callInside_congr
    {left right : Facade σ}
    {side : Side}
    (samePool : left.pool side = right.pool side)
    (time : CallTime)
    (asked : Side)
    (call : PoolCall FileHandle) :
    (left.callInside time asked call).2.pool side =
        (right.callInside time asked call).2.pool side ∧
      (asked = side → (left.callInside time asked call).1 =
        (right.callInside time asked call).1) := by
  simp only [callInside]
  by_cases same : asked = side
  · subst same
    rw [samePool]
    exact ⟨by rw [pool_restore_self, pool_restore_self], fun _ => rfl⟩
  · refine ⟨?_, fun isSame => absurd isSame same⟩
    rw [pool_restore_of_ne (Ne.symm same),
      pool_restore_of_ne (Ne.symm same), samePool]

theorem pool_transfer_self
    {left right : Facade σ}
    {issued : Issued}
    (samePool : left.pool issued.side = right.pool issued.side)
    {transfer : Transfer σ}
    (sameAnswer : (fun handle => (transfer.run handle left.store).1) =
      fun handle => (transfer.run handle right.store).1) :
    (left.transfer issued transfer).pool issued.side =
      (right.transfer issued transfer).pool issued.side := by
  obtain ⟨side, number⟩ := issued
  simp only [Facade.transfer, handle?, samePool]
  cases (right.pool side).handles[number]? with
  | none => exact samePool
  | some handle =>
      simp only [replace, change, pool_restore_self, congrFun sameAnswer handle]
      cases side <;> simp_all [Facade.pool]

variable [FileStore σ]

theorem resolve_congr
    {left right : Facade σ}
    {path : Path}
    (sameDirectory : path.isAbsolute = false →
      FileStore.workingDirectory left.store =
        FileStore.workingDirectory right.store) :
    left.resolve path = right.resolve path :=
  Resolved.ofPath_congr sameDirectory

/-- A command that is given after the handles of a key were let go. -/
theorem command_invalidate_congr
    {left right : Facade σ}
    {side : Side}
    (samePool : left.pool side = right.pool side)
    (command : StoreCommand)
    (sameAnswer : (command.run left.store).1 = (command.run right.store).1)
    (now : Instant)
    (key : String) :
    ((left.invalidate now key).command command).1 =
        ((right.invalidate now key).command command).1 ∧
      ((left.invalidate now key).command command).2.pool side =
        ((right.invalidate now key).command command).2.pool side := by
  refine ⟨?_, ?_⟩
  · simpa only [Facade.command, store_note, invalidate, store_changeBoth] using
      sameAnswer
  · rw [pool_command, pool_command, invalidate, invalidate, pool_changeBoth,
      pool_changeBoth, samePool]

theorem openOn_congr
    {left right : Facade σ}
    {side : Side}
    (samePool : left.pool side = right.pool side)
    {time : CallTime}
    {resolved : Resolved}
    {mode : OpenMode}
    (sameAnswer : (left.pool side).contains time.starts resolved.key = false →
      ((StoreCommand.openFile resolved.path mode).run left.store).1 =
        ((StoreCommand.openFile resolved.path mode).run right.store).1)
    (event : FacadeEvent) :
    (left.openOn side time resolved mode event).1 =
        (right.openOn side time resolved mode event).1 ∧
      (left.openOn side time resolved mode event).2.pool side =
        (right.openOn side time resolved mode event).2.pool side := by
  unfold openOn
  rw [samePool] at sameAnswer ⊢
  cases found : (right.pool side).live? time.starts resolved.key with
  | some entry =>
      rw [Pool.seek_of_some found]
      exact ⟨rfl, by rw [pool_restore_self, pool_restore_self]⟩
  | none =>
      have notFound := congrArg Prod.fst (Pool.seek_of_none found)
      rcases sought : (right.pool side).seek time.starts resolved.key with
          ⟨answer, pool⟩
      rw [sought] at notFound
      obtain rfl : answer = none := notFound
      have missing :
          (right.pool side).contains time.starts resolved.key = false := by
        rw [Pool.contains, found]
        rfl
      obtain ⟨sameResult, samePoolAfter⟩ := Pool.openMissing_congr
        { pool with journal := [] } time resolved.key (sameAnswer missing)
      simp only [pool_note, pool_restore_self, store_note,
        store_restore, sameResult, samePoolAfter, and_self]

theorem pool_openOn_of_ne
    {side other : Side}
    (different : other ≠ side)
    (facade : Facade σ)
    (time : CallTime)
    (resolved : Resolved)
    (mode : OpenMode)
    (event : FacadeEvent) :
    (facade.openOn side time resolved mode event).2.pool other =
      facade.pool other :=
  (facade.openOn_eq side time resolved mode event rfl).2.2.1 other different

/-- A request is answered by the pool on its side, or by the store. -/
theorem request_congr
    {left right : Facade σ}
    {request : FileRequest}
    (samePool : left.pool request.side = right.pool request.side)
    (sameDirectory : request.path.isAbsolute = false →
      FileStore.workingDirectory left.store =
        FileStore.workingDirectory right.store)
    {time : CallTime}
    (sameAnswer : left.hits time (.request request) = false →
      (Operation.request request).answer left.store =
        (Operation.request request).answer right.store) :
    (left.request time request).1 = (right.request time request).1 ∧
      (left.request time request).2.pool request.side =
        (right.request time request).2.pool request.side := by
  have leftOpens := left.opening_request time request
  have rightOpens := right.opening_request time request
  simp only [Operation.answer, hits, StoreAnswer.opened.injEq] at sameAnswer
  simp only [opening, FileRequest.opening_congr sameDirectory]
    at leftOpens rightOpens sameAnswer
  generalize left.request time request = leftGave at leftOpens ⊢
  generalize right.request time request = rightGave at rightOpens ⊢
  generalize request.opening _ = opening at leftOpens rightOpens sameAnswer
  cases leftOpens with
  | refused error leftAlike =>
      cases rightOpens with
      | refused _ rightAlike =>
          exact ⟨rfl, by rw [leftAlike.pools, rightAlike.pools, samePool]⟩
  | asked resolved event leftNoted leftAfter =>
      cases rightOpens with
      | asked _ _ rightNoted rightAfter =>
          rw [← leftNoted.store_eq, ← rightNoted.store_eq, ← leftNoted.pools]
            at sameAnswer
          have same := openOn_congr
            ((leftNoted.pools _).trans
              (samePool.trans (rightNoted.pools _).symm))
            sameAnswer event
          exact ⟨same.1, by rw [leftAfter.pools, rightAfter.pools, same.2]⟩

/-- The pool on the other side is left alone. -/
theorem pool_request_of_ne
    {side : Side}
    {request : FileRequest}
    (different : side ≠ request.side)
    (facade : Facade σ)
    (time : CallTime) :
    (facade.request time request).2.pool side = facade.pool side := by
  have opens := facade.opening_request time request
  generalize facade.request time request = gave at opens ⊢
  generalize facade.opening request = opening at opens
  cases opens with
  | refused error alike => exact alike.pools side
  | asked resolved event noted after =>
      rw [after.pools, pool_openOn_of_ne different, noted.pools]

/-- What an operation does to a pool, and what it returns unless it is about the
other pool, depends on nothing but that pool, where relative paths start, and
what the store says. -/
theorem operate_congr
    {left right : Facade σ}
    {side : Side}
    (samePool : left.pool side = right.pool side)
    {time : CallTime}
    {operation : Operation σ}
    (sameDirectory : operation.isAbsolute = false →
      FileStore.workingDirectory left.store =
        FileStore.workingDirectory right.store)
    (sameAnswer : left.hits time operation = false →
      operation.answer left.store = operation.answer right.store) :
    (left.operate time operation).2.pool side =
      (right.operate time operation).2.pool side ∧
      (operation.side? ≠ some side.other →
        (left.operate time operation).1 =
          (right.operate time operation).1) := by
  cases operation with
  | request request =>
      simp only [operate]
      by_cases asked : side = request.side
      · subst asked
        obtain ⟨sameResult, samePoolAfter⟩ :=
          request_congr samePool sameDirectory sameAnswer
        exact ⟨samePoolAfter, fun _ => congrArg VisitReply.issued sameResult⟩
      · rw [pool_request_of_ne asked, pool_request_of_ne asked]
        refine ⟨samePool, fun aboutThis => absurd ?_ aboutThis⟩
        rw [Operation.side?, Side.ne_iff.mp (Ne.symm asked)]
  | createFile path permissions =>
      have sameOutcome := StoreAnswer.path.inj (sameAnswer rfl)
      rw [Resolved.ofPath_congr sameDirectory] at sameOutcome
      simp only [operate, createFile, resolve_congr sameDirectory]
      cases resolves : right.resolve path with
      | error error => exact ⟨samePool, fun _ => rfl⟩
      | ok resolved =>
          rw [show Resolved.ofPath _ path = .ok resolved from resolves]
            at sameOutcome
          obtain ⟨sameResult, samePoolAfter⟩ :=
            command_invalidate_congr samePool
            (.createFile resolved.path permissions) sameOutcome
              time.starts resolved.key
          exact ⟨samePoolAfter, fun _ => congrArg VisitReply.path sameResult⟩
  | delete path =>
      have sameOutcome := StoreAnswer.outcome.inj (sameAnswer rfl)
      rw [Resolved.ofPath_congr sameDirectory] at sameOutcome
      simp only [operate, delete, resolve_congr sameDirectory]
      cases resolves : right.resolve path with
      | error error => exact ⟨samePool, fun _ => rfl⟩
      | ok resolved =>
          rw [show Resolved.ofPath _ path = .ok resolved from resolves]
            at sameOutcome
          obtain ⟨sameResult, samePoolAfter⟩ :=
            command_invalidate_congr samePool
            (.delete resolved.path) sameOutcome time.starts resolved.key
          exact ⟨samePoolAfter, fun _ => congrArg VisitReply.outcome sameResult⟩
  | createDirectories path =>
      have sameOutcome := StoreAnswer.path.inj (sameAnswer rfl)
      refine ⟨?_, fun _ => congrArg VisitReply.path sameOutcome⟩
      simp only [operate, createDirectories, pool_command, samePool]
  | setPermissions path permissions =>
      have sameOutcome := StoreAnswer.path.inj (sameAnswer rfl)
      refine ⟨?_, fun _ => congrArg VisitReply.path sameOutcome⟩
      simp only [operate, setPermissions, pool_command, samePool]
  | closeAll =>
      simp only [operate, closeAll, pool_note, pool_changeBoth,
        samePool, true_and]
      exact fun _ => trivial
  | settle =>
      simp only [operate, settle, pool_changeBoth, samePool, true_and]
      exact fun _ => trivial
  | inside asked call =>
      obtain ⟨samePoolAfter, sameReply⟩ :=
        callInside_congr samePool time asked call
      refine ⟨samePoolAfter, fun aboutThis =>
        congrArg VisitReply.inside (sameReply ?_)⟩
      by_contra different
      exact aboutThis (congrArg some (Side.ne_iff.mp different))
  | transfer issued transfer =>
      have sameChange := StoreAnswer.transferred.inj (sameAnswer rfl)
      refine ⟨?_, fun _ => rfl⟩
      simp only [operate]
      by_cases same : side = issued.side
      · subst same
        exact pool_transfer_self samePool sameChange
      · rw [pool_transfer_of_ne same, pool_transfer_of_ne same, samePool]

/-- A request on the other side leaves a pool alone. -/
theorem pool_visit_of_asksOn
    {visit : Visit σ}
    {side : Side}
    (asks : visit.asksOn side.other = true)
    (facade : Facade σ) :
    (facade.visit visit).2.pool side = facade.pool side := by
  obtain ⟨time, found, operation⟩ := visit
  cases operation with
  | request request =>
      have different : side ≠ request.side := by
        have onOther : request.side = side.other := beq_iff_eq.mp asks
        exact (Side.ne_iff.mpr onOther).symm
      refine (pool_request_of_ne different _ time).trans ?_
      cases side <;> rfl
  | _ => cases asks

theorem visit_congr
    {left right : Facade σ}
    {side : Side}
    (samePool : left.pool side = right.pool side)
    {call other : Visit σ}
    (sameTime : other.time = call.time)
    (sameOperation : other.operation = call.operation)
    (sameDirectory : call.operation.isAbsolute = false →
      FileStore.workingDirectory call.found =
        FileStore.workingDirectory other.found)
    (sameAnswer : hits { left with store := call.found } call.time
      call.operation = false →
      call.operation.answer call.found = other.operation.answer other.found) :
    (left.visit call).2.pool side = (right.visit other).2.pool side ∧
      (call.operation.side? ≠ some side.other →
        (left.visit call).1 = (right.visit other).1) := by
  obtain ⟨time, found, operation⟩ := call
  obtain ⟨_, foundOther, _⟩ := other
  obtain rfl := sameTime
  obtain rfl := sameOperation
  have samePoolThere : { left with store := found }.pool side =
      { right with store := foundOther }.pool side :=
    (pool_atStore left found side).trans
      (samePool.trans (pool_atStore right foundOther side).symm)
  exact operate_congr samePoolThere sameDirectory sameAnswer

end Facade

/-! ## Sessions -/

/-- A visit, with what it returned and the façade that it left. -/
structure Moment (σ : Type) where
  visit : Visit σ
  /-- The visit was a request for what was kept. -/
  hit : Bool
  reply : VisitReply
  facade : Facade σ

/-- What a visit shows on one side: what it returned, unless it was
about the other side, and the pool, with its entries in order, its
counters, and all its handles. -/
def Moment.seenFrom (side : Side) (moment : Moment σ) :
    Option VisitReply × Pool FileHandle :=
  (if moment.visit.operation.side? = some side.other then none
    else some moment.reply, moment.facade.pool side)

variable [FileStore σ]

/-- Another visit asks the same at the same time, in the same working
directory if it asks for a relative path, and the store, if it was asked,
says the same to that. -/
structure Moment.Recurs (moment : Moment σ) (other : Visit σ) : Prop where
  time_eq : other.time = moment.visit.time
  operation_eq : other.operation = moment.visit.operation
  directory_eq : moment.visit.operation.isAbsolute = false →
    FileStore.workingDirectory moment.visit.found =
      FileStore.workingDirectory other.found
  answer_eq : moment.hit = false →
    moment.visit.operation.answer moment.visit.found =
      other.operation.answer other.found

namespace Facade

/-- The moments of some visits. -/
def trail (facade : Facade σ) : List (Visit σ) → List (Moment σ)
  | [] => []
  | visit :: later =>
      let returned := facade.visit visit
      ⟨visit, hits { facade with store := visit.found } visit.time
        visit.operation, returned.1, returned.2⟩ ::
        returned.2.trail later

theorem seen_of_samePool
    {left right : Facade σ}
    {side : Side}
    (samePool : left.pool side = right.pool side)
    {visits others : List (Visit σ)}
    (recur : List.Forall₂ Moment.Recurs
      ((left.trail visits).filter fun moment => !moment.visit.asksOn side.other)
        others) :
    ((left.trail visits).filter fun moment =>
      !moment.visit.asksOn side.other).map (Moment.seenFrom side) =
      (right.trail others).map (Moment.seenFrom side) := by
  induction visits generalizing left right others with
  | nil =>
      cases recur
      rfl
  | cons visit visits inductionHypothesis =>
      cases asks : visit.asksOn side.other with
      | true =>
          have stays := (pool_visit_of_asksOn asks left).trans samePool
          simp only [trail, List.filter_cons, asks, Bool.not_true,
            Bool.false_eq_true, if_false] at recur ⊢
          exact inductionHypothesis stays recur
      | false =>
          simp only [trail, List.filter_cons, asks, Bool.not_false, if_true]
            at recur ⊢
          cases recur with
          | @cons _ other _ others recurs later =>
              obtain ⟨sameTime, sameOperation, sameDirectory, sameAnswer⟩ :=
                recurs
              obtain ⟨samePoolAfter, sameReply⟩ :=
                visit_congr samePool sameTime sameOperation
                  sameDirectory sameAnswer
              simp only [trail, List.map_cons]
              refine congrArg₂ List.cons ?_
                (inductionHypothesis samePoolAfter later)
              refine Prod.ext ?_ samePoolAfter
              have sameSide : other.operation.side? = visit.operation.side? :=
                congrArg Operation.side? sameOperation
              simp only [Moment.seenFrom, sameSide]
              split
              · rfl
              · next aboutThis => rw [sameReply aboutThis]

/-- Leaving out all requests to one side of a façade, in any session, changes
nothing that the remaining visits show on the other side, as long as these come
at the same times and the store gives them the answers that it gave before. -/
theorem seen_of_erased
    (facade : Facade σ)
    (visits others : List (Visit σ))
    (side : Side)
    (recur : List.Forall₂ Moment.Recurs
      ((facade.trail visits).filter fun moment =>
        !moment.visit.asksOn side.other) others) :
    ((facade.trail visits).filter fun moment =>
      !moment.visit.asksOn side.other).map (Moment.seenFrom side) =
      (facade.trail others).map (Moment.seenFrom side) :=
  seen_of_samePool rfl recur

/-- A tree with one file. -/
def singleFile (bytes : List UInt8) : Tree :=
  (Tree.empty.add [[0x66]] (.file Tree.fileMode bytes)).2

/-- The path of the file. -/
def singlePath : Path := ⟨[0x2F, 0x66]⟩

/-- The file is opened to be read, and to be written, and when something is
written, to be read again. -/
def mixedVisits : List (Visit Tree) :=
  [⟨.instantly 0, singleFile [], .request (.toRead singlePath)⟩,
    ⟨.instantly 1, singleFile [], .request (.toWrite singlePath .write)⟩,
    ⟨.instantly 2, singleFile [1], .request (.toRead singlePath)⟩]

/-- The file is only opened to be read, and has gone when it is opened again. -/
def readingVisits : List (Visit Tree) :=
  [⟨.instantly 0, singleFile [], .request (.toRead singlePath)⟩,
    ⟨.instantly 2, .empty, .request (.toRead singlePath)⟩]

/-- The same handle is given to be read twice, whether the file is written in
between or not. -/
theorem seen_of_erased_of_write :
    ∃ start, create {} Tree.empty = .ok start ∧
      List.Forall₂ Moment.Recurs
        ((start.trail mixedVisits).filter fun moment =>
          !moment.visit.asksOn Side.read.other) readingVisits ∧
      ((start.trail mixedVisits).filter fun moment =>
          !moment.visit.asksOn Side.read.other).map (Moment.seenFrom .read) =
        (start.trail readingVisits).map (Moment.seenFrom .read) := by
  refine ⟨_, rfl, ?_⟩
  refine (fun recur =>
    ⟨recur, seen_of_erased _ mixedVisits readingVisits .read recur⟩) ?_
  -- The third visit is a hit, so the store is asked by the first one alone.
  refine .cons ⟨rfl, rfl, fun _ => rfl, fun _ => rfl⟩
    (.cons ⟨rfl, rfl, fun _ => rfl, fun missed => ?_⟩ .nil)
  exact absurd missed (by decide +kernel)

end Facade
end HandlePool
