import HandlePool.Proofs.Path

/-!
# Normal forms by resolving segments

Going along the segments of a path resolves them: `.` changes nothing, `..`
takes off the innermost segment, and every other segment goes on top.  The
normal form, which is built by putting paths behind each other and cutting
components off, is the absolute path of what is left.  So it is normal, it is
its own normal form, and detours that lead nowhere do not show in it.
-/

namespace HandlePool
namespace Path

/-! ## Resolving segments -/

/-- Resolve segments by going along them from the root. -/
def resolve (segments : List Segment) : List Segment :=
  (segments.foldl enter []).reverse

/-- A path as written from the root, when relative paths start at `base`. -/
def fromRoot (base path : Path) : Path :=
  if path.isAbsolute then path else ⟨base.bytes ++ slash :: path.bytes⟩

/-- A segment stays where it is, leads up, or is a name. -/
theorem segment_cases
    {segment : Segment}
    (fits : segment ≠ [] ∧ slash ∉ segment) :
    segment = here ∨ segment = up ∨ IsName segment := by
  by_cases isHere : segment = here
  · exact .inl isHere
  by_cases isUp : segment = up
  · exact .inr (.inl isUp)
  · exact .inr (.inr ⟨fits.1, fits.2, isHere, isUp⟩)

theorem IsName.enter_eq
    {name : Segment}
    (isName : IsName name)
    (stack : List Segment) :
    enter stack name = name :: stack :=
  enter_name isName.ne_here isName.ne_up

/-- Entering a segment leaves names on a stack of names. -/
theorem isName_of_mem_enter
    {stack : List Segment}
    (areNames : ∀ name ∈ stack, IsName name)
    {segment : Segment}
    (fits : segment ≠ [] ∧ slash ∉ segment)
    {other : Segment}
    (present : other ∈ enter stack segment) :
    (other ∈ stack ∨ other = segment) ∧ IsName other := by
  obtain rfl | rfl | isName := segment_cases fits
  · rw [enter_here] at present
    exact ⟨.inl present, areNames other present⟩
  · rw [enter_up] at present
    have before := List.mem_of_mem_tail present
    exact ⟨.inl before, areNames other before⟩
  · rw [isName.enter_eq, List.mem_cons] at present
    obtain rfl | before := present
    · exact ⟨.inr rfl, isName⟩
    · exact ⟨.inl before, areNames other before⟩

/-- Going along segments leaves names, each of which was on
the stack or was passed. -/
theorem mem_foldl_enter
    {segments stack : List Segment}
    (areNames : ∀ name ∈ stack, IsName name)
    (fit : ∀ segment ∈ segments, segment ≠ [] ∧ slash ∉ segment)
    {segment : Segment}
    (present : segment ∈ segments.foldl enter stack) :
    (segment ∈ stack ∨ segment ∈ segments) ∧ IsName segment := by
  induction segments generalizing stack with
  | nil => exact ⟨.inl present, areNames segment present⟩
  | cons next segments inductionHypothesis =>
      have entered : ∀ other ∈ enter stack next,
          (other ∈ stack ∨ other = next) ∧ IsName other := fun other =>
        isName_of_mem_enter areNames (fit next List.mem_cons_self)
      obtain ⟨origin, isName⟩ := inductionHypothesis
        (fun other present => (entered other present).2)
        (fun other present => fit other (List.mem_cons_of_mem _ present))
          present
      refine ⟨?_, isName⟩
      rw [List.mem_cons]
      obtain onStack | later := origin
      · exact (entered segment onStack).1.imp_right .inl
      · exact .inr (.inr later)

theorem mem_resolve
    {path : Path}
    {segment : Segment}
    (present : segment ∈ resolve path.segments) :
    segment ∈ path.segments ∧ IsName segment := by
  rw [resolve, List.mem_reverse] at present
  obtain ⟨origin, isName⟩ :=
    mem_foldl_enter (by simp) (fun _ => ne_nil_of_mem_segments) present
  exact ⟨origin.resolve_left List.not_mem_nil, isName⟩

/-- Names resolve to themselves. -/
theorem resolve_names
    {names : List Segment}
    (areNames : ∀ name ∈ names, IsName name) :
    resolve names = names := by
  have stacked : ∀ stack, names.foldl enter stack = names.reverse ++ stack := by
    induction names with
    | nil => exact fun _ => rfl
    | cons name names inductionHypothesis =>
        intro stack
        rw [List.foldl_cons, (areNames name List.mem_cons_self).enter_eq,
          inductionHypothesis fun other present =>
            areNames other (List.mem_cons_of_mem _ present),
          List.reverse_cons, List.append_assoc, List.singleton_append]
  rw [resolve, stacked, List.append_nil, List.reverse_reverse]

/-- Segments that stay where they are make no difference. -/
theorem foldl_enter_filter
    (segments stack : List Segment) :
    (segments.filter fun segment => segment != here).foldl enter stack =
      segments.foldl enter stack := by
  rw [List.foldl_filter]
  congr 1
  funext stack segment
  by_cases isHere : segment = here <;> simp [isHere]

/-! ## Pieces of built paths -/

/-- A slash divides the pieces before it from those behind it. -/
theorem cut_append_slash
    (front back : List UInt8) :
    cut (front ++ slash :: back) = cut front ++ cut back := by
  induction front with
  | nil => exact cut_cons_slash back
  | cons byte front inductionHypothesis =>
      by_cases split : byte = slash
      · rw [split, List.cons_append, cut_cons_slash, cut_cons_slash,
          inductionHypothesis]
        rfl
      · obtain ⟨first, later, pieces⟩ :=
          List.exists_cons_of_ne_nil (cut_ne_nil front)
        rw [List.cons_append, cut, cut, if_neg split, if_neg split,
          inductionHypothesis, pieces]
        rfl

theorem segments_append_slash
    (front back : List UInt8) :
    segments ⟨front ++ slash :: back⟩ =
      segments ⟨front⟩ ++ segments ⟨back⟩ := by
  rw [segments, cut_append_slash, List.filter_append]
  rfl

theorem segments_word
    {word : List UInt8}
    (ne_nil : word ≠ [])
    (unsplit : slash ∉ word) :
    segments ⟨word⟩ = [word] := by
  obtain ⟨first, later, pieces, whole⟩ := cut_append unsplit []
  obtain ⟨rfl, rfl⟩ := List.cons.inj pieces
  rw [List.append_nil] at whole
  rw [segments, whole]
  exact List.filter_cons_of_pos (by simpa using ne_nil)

theorem isAbsolute_word
    {word : List UInt8}
    (ne_nil : word ≠ [])
    (unsplit : slash ∉ word) :
    Path.isAbsolute ⟨word⟩ = false := by
  obtain ⟨byte, bytes, rfl⟩ := List.exists_cons_of_ne_nil ne_nil
  rw [Path.isAbsolute, beq_eq_false_iff_ne]
  intro same
  obtain rfl := Option.some.inj same
  exact unsplit List.mem_cons_self

namespace Buffer

@[simp] theorem toPath_ofPath
    (path : Path) :
    (ofPath path).toPath = path := by
  rw [toPath, ofPath, List.reverse_reverse]

theorem ofPath_toPath
    (buffer : Buffer) :
    ofPath buffer.toPath = buffer := by
  rw [ofPath, toPath, List.reverse_reverse]

/-- A relative path follows a slash. -/
theorem toPath_push
    {later : Path}
    (relative : later.isAbsolute = false)
    (buffer : Buffer) :
    (buffer.push later).toPath = ⟨buffer.toPath.bytes ++
      if buffer.needsSlash then slash :: later.bytes else later.bytes⟩ := by
  rw [push, if_neg (by simp [relative])]
  split <;> simp [toPath]

/-- A relative path adds its segments. -/
theorem segments_push
    {later : Path}
    (relative : later.isAbsolute = false)
    (buffer : Buffer) :
    (buffer.push later).toPath.segments =
      buffer.toPath.segments ++ later.segments := by
  rw [toPath_push relative]
  split
  · exact segments_append_slash buffer.toPath.bytes later.bytes
  · next closed =>
    obtain ⟨reversed⟩ := buffer
    cases reversed with
    | nil => rfl
    | cons last before =>
        obtain rfl : last = slash := by simpa [needsSlash] using closed
        have split := segments_append_slash before.reverse []
        rw [toPath, List.reverse_cons, List.append_assoc, List.singleton_append,
          segments_append_slash, split, List.append_assoc]
        rfl

/-- A path behind an absolute one makes an absolute path. -/
theorem isAbsolute_push
    {buffer : Buffer}
    (isAbsolute : buffer.toPath.isAbsolute = true)
    {later : Path}
    (relative : later.isAbsolute = false) :
    (buffer.push later).toPath.isAbsolute = true := by
  rw [Path.isAbsolute, beq_iff_eq] at isAbsolute ⊢
  rw [toPath_push relative, List.head?_append, isAbsolute, Option.some_or]

/-- Putting pieces behind an absolute path adds them as segments. -/
theorem segments_foldl_push
    {pieces : List Segment}
    (fit : ∀ piece ∈ pieces, piece ≠ [] ∧ slash ∉ piece)
    {buffer : Buffer}
    (isAbsolute : buffer.toPath.isAbsolute = true) :
    ((pieces.map Path.mk).foldl push buffer).toPath.isAbsolute = true ∧
      ((pieces.map Path.mk).foldl push buffer).toPath.segments =
        buffer.toPath.segments ++ pieces := by
  induction pieces generalizing buffer with
  | nil => exact ⟨isAbsolute, (List.append_nil _).symm⟩
  | cons piece pieces inductionHypothesis =>
      obtain ⟨ne_nil, unsplit⟩ := fit piece List.mem_cons_self
      have relative := isAbsolute_word ne_nil unsplit
      obtain ⟨absoluteAfter, after⟩ := inductionHypothesis
        (fun other present => fit other (List.mem_cons_of_mem _ present))
        (isAbsolute_push isAbsolute relative)
      refine ⟨absoluteAfter, after.trans ?_⟩
      rw [segments_push relative, segments_word ne_nil unsplit,
        List.append_assoc, List.singleton_append]

end Buffer

/-! ## Components -/

theorem ofSegment_eq_here_iff
    {segment : Segment} :
    Component.ofSegment segment = .here ↔ segment = here := by
  unfold Component.ofSegment
  by_cases isHere : segment = here
  · simp [isHere]
  · rw [if_neg isHere]
    split <;> simp [isHere]

theorem bytes_ofSegment
    (segment : Segment) :
    (Component.ofSegment segment).bytes = segment := by
  unfold Component.ofSegment
  split
  · next isHere => exact isHere.symm
  · split
    · next isUp => exact isUp.symm
    · rfl

/-- The segments that do not stay where they are. -/
def moves (path : Path) : List Segment :=
  path.segments.filter fun segment => segment != here

theorem filter_components
    (path : Path) :
    (path.segments.map Component.ofSegment).filter
      (fun component => component != .here) =
      path.moves.map Component.ofSegment := by
  rw [List.filter_map, moves]
  congr 2
  funext segment
  rw [Function.comp, Bool.eq_iff_iff, bne_iff_ne, bne_iff_ne, Ne,
    ofSegment_eq_here_iff]

theorem components_of_isAbsolute
    {path : Path}
    (isAbsolute : path.isAbsolute = true) :
    path.components = .root :: path.moves.map Component.ofSegment := by
  rw [components, if_pos isAbsolute, filter_components]

/-- As paths, the components are the segments. -/
theorem toPath_ofSegment
    (segment : Segment) :
    (Component.ofSegment segment).toPath = ⟨segment⟩ := by
  have notRoot : (Component.ofSegment segment).toPath =
      ⟨(Component.ofSegment segment).bytes⟩ := by
    unfold Component.ofSegment
    split
    · rfl
    · split <;> rfl
  rw [notRoot, bytes_ofSegment]

theorem map_toPath
    (segments : List Segment) :
    (segments.map Component.ofSegment).map Component.toPath =
      segments.map Path.mk := by
  rw [List.map_map]
  exact List.map_congr_left fun segment _ => toPath_ofSegment segment

/-! ## Making a path absolute -/

theorem start_of_relative
    {path : Path}
    (relative : path.isAbsolute = false)
    (base : Path) :
    start base path = (.ofPath base, path.moves.map Component.ofSegment) := by
  have shown : path.components =
      if path.segments.head? = some here then
        .here :: path.moves.map Component.ofSegment
      else path.moves.map Component.ofSegment := by
    rw [components, if_neg (by simp [relative]), filter_components]
  rw [start, if_neg (by simp [relative]), shown]
  split_ifs
  · rfl
  · split
    · next later leading =>
      have present : Component.here ∈ path.moves.map Component.ofSegment := by
        rw [leading]
        exact List.mem_cons_self
      obtain ⟨segment, isMove, isHere⟩ := List.mem_map.mp present
      simp [moves, ofSegment_eq_here_iff.mp isHere] at isMove
    · rfl

/-- An absolute path starts at slashes alone. -/
theorem extended_of_isAbsolute
    {path : Path}
    (isAbsolute : path.isAbsolute = true)
    (base : Path) :
    ∃ first : Buffer, first.toPath.isAbsolute = true ∧
      first.toPath.segments = [] ∧
      extended base path =
        (path.moves.map Path.mk).foldl Buffer.push first := by
  unfold extended start
  rw [if_pos isAbsolute, components_of_isAbsolute isAbsolute]
  split
  · exact ⟨⟨[slash, slash]⟩, rfl, rfl, by rw [List.tail_cons, map_toPath]⟩
  · exact ⟨⟨[slash]⟩, rfl, rfl, by rw [List.map_cons, map_toPath]; rfl⟩

/-- Extended, a path has the segments of what it starts at and its own moves. -/
theorem segments_extended
    {base : Path}
    (isAbsolute : base.isAbsolute = true)
    (path : Path) :
    (extended base path).toPath.isAbsolute = true ∧
    (extended base path).toPath.segments =
      (if path.isAbsolute then [] else base.segments) ++ path.moves := by
  have fit : ∀ piece ∈ path.moves, piece ≠ [] ∧ slash ∉ piece :=
    fun piece isMove =>
    ne_nil_of_mem_segments (List.mem_of_mem_filter isMove)
  by_cases written : path.isAbsolute = true
  · obtain ⟨first, firstAbsolute, firstSegments, built⟩ :=
      extended_of_isAbsolute written base
    rw [built, if_pos written, ← firstSegments]
    exact Buffer.segments_foldl_push fit firstAbsolute
  · have relative : path.isAbsolute = false := by simpa using written
    have first : (Buffer.ofPath base).toPath.isAbsolute = true := by
      rwa [Buffer.toPath_ofPath]
    have built := Buffer.segments_foldl_push fit first
    rw [Buffer.toPath_ofPath] at built
    rw [extended, start_of_relative relative, map_toPath, if_neg written]
    exact built

/-- So has the path made absolute: a slash at its end adds no segment. -/
theorem segments_of_absolute
    {base path whole : Path}
    (isAbsolute : base.isAbsolute = true)
    (made : absolute base path = .ok whole) :
    whole.isAbsolute = true ∧ whole.segments =
      (if path.isAbsolute then [] else base.segments) ++ path.moves := by
  obtain ⟨extendedAbsolute, segments⟩ := segments_extended isAbsolute path
  unfold absolute at made
  split at made
  · cases made
  · split at made
    · obtain rfl := Except.ok.inj made
      refine ⟨Buffer.isAbsolute_push extendedAbsolute rfl, ?_⟩
      rw [Buffer.segments_push rfl, segments]
      exact List.append_nil _
    · obtain rfl := Except.ok.inj made
      exact ⟨extendedAbsolute, segments⟩

/-! ## Building along components -/

/-- Pieces between slashes, put together again. -/
theorem bytes_ofSegments
    (names : List Segment) :
    (ofSegments names).bytes = slash :: List.intercalate [slash] names := by
  have joined : ∀ first : Segment, ∀ later : List Segment,
      (first :: later).flatMap (fun name => slash :: name) =
        slash :: List.intercalate [slash] (first :: later) := by
    intro first later
    induction later generalizing first with
    | nil => simp
    | cons second later inductionHypothesis =>
        rw [List.flatMap_cons, inductionHypothesis, List.intercalate_cons_cons]
        simp
  cases names with
  | nil => rfl
  | cons first later => exact joined first later

namespace Buffer

theorem needsSlash_ofPath
    (path : Path) :
    (ofPath path).needsSlash = (!path.bytes.isEmpty && !path.endsInSlash) := by
  obtain ⟨bytes⟩ := path
  obtain rfl | ⟨before, last, rfl⟩ := List.eq_nil_or_concat bytes
  · rfl
  · rw [List.concat_eq_append, needsSlash, ofPath,
      List.reverse_append, endsInSlash, List.getLast?_append]
    cases before <;> rfl

/-- Putting a name behind a normal form. -/
theorem push_ofSegments
    {names : List Segment}
    (areNames : ∀ name ∈ names, IsName name)
    {name : Segment}
    (isName : IsName name) :
    (ofPath (ofSegments names)).push ⟨name⟩ =
      ofPath (ofSegments (names ++ [name])) := by
  have relative := isAbsolute_word isName.ne_nil isName.unsplit
  rw [← ofPath_toPath (push _ _), toPath_push relative, needsSlash_ofPath,
    toPath_ofPath, endsInSlash_ofSegments areNames]
  cases names <;> simp [ofSegments]

/-- Nothing is left out behind a name, whose last byte comes first. -/
theorem trim_name
    {name : Segment}
    (isName : IsName name)
    (before : List UInt8) :
    trim (name.reverse ++ before) = name.reverse ++ before := by
  obtain ⟨front, last, rfl⟩ :=
    List.eq_nil_or_concat name |>.resolve_left isName.ne_nil
  rw [List.concat_eq_append] at isName ⊢
  rw [List.reverse_append, List.reverse_singleton, List.singleton_append,
    List.cons_append]
  unfold trim
  split
  · next shape =>
    obtain rfl := (List.cons.inj shape).1
    exact absurd (List.mem_append_right front List.mem_cons_self) isName.unsplit
  · next shape =>
    -- A dot behind a slash is the segment that stays where it is, and no name.
    obtain ⟨rfl, later⟩ := List.cons.inj shape
    obtain rfl | ⟨front, next, rfl⟩ := List.eq_nil_or_concat front
    · exact absurd rfl isName.ne_here
    · rw [List.concat_eq_append, List.reverse_append, List.reverse_singleton,
        List.singleton_append, List.cons_append, List.cons.injEq] at later
      exact absurd (by simp [later.1, slash]) isName.unsplit
  · rfl

theorem reverse_ofSegments_concat
    (before : List Segment)
    (last : Segment) :
    (ofSegments (before ++ [last])).bytes.reverse =
      last.reverse ++ slash ::
        (before.flatMap fun name => slash :: name).reverse := by
  rw [bytes_ofSegments_concat]
  simp

/-- A slash behind names is left out, and the root is not. -/
theorem trim_slash
    {names : List Segment}
    (areNames : ∀ name ∈ names, IsName name) :
    trim (slash :: (names.flatMap fun name => slash :: name).reverse) =
      (ofSegments names).bytes.reverse := by
  obtain rfl | ⟨before, last, rfl⟩ := List.eq_nil_or_concat names
  · rfl
  · rw [List.concat_eq_append] at areNames ⊢
    have isName := areNames last (by simp)
    have written :
        ((before ++ [last]).flatMap fun name => slash :: name).reverse =
        (ofSegments (before ++ [last])).bytes.reverse := by
      cases before <;> rfl
    obtain ⟨byte, bytes, reversed⟩ := List.exists_cons_of_ne_nil
      (mt List.reverse_eq_nil_iff.mp isName.ne_nil)
    calc trim (slash ::
      ((before ++ [last]).flatMap fun name => slash :: name).reverse)
      _ = trim (ofSegments (before ++ [last])).bytes.reverse := by
        rw [written, reverse_ofSegments_concat, reversed]
        rfl
      _ = (ofSegments (before ++ [last])).bytes.reverse := by
        rw [reverse_ofSegments_concat]
        exact trim_name isName _

/-- Cutting the last name off a normal form. -/
theorem pop_ofSegments
    {names : List Segment}
    (areNames : ∀ name ∈ names, IsName name) :
    (ofPath (ofSegments names)).pop = ofPath (ofSegments names.dropLast) := by
  obtain rfl | ⟨before, last, rfl⟩ := List.eq_nil_or_concat names
  · rfl
  · rw [List.concat_eq_append] at areNames ⊢
    have isName := areNames last (by simp)
    have earlier : ∀ name ∈ before, IsName name := fun name present =>
      areNames name (List.mem_append_left _ present)
    have passed : ∀ byte ∈ last.reverse, (byte != slash) = true := by
      intro byte present
      rw [bne_iff_ne]
      rintro rfl
      exact isName.unsplit (List.mem_reverse.mp present)
    have shown : ∀ below : List UInt8,
        (last.reverse ++ slash :: below).dropWhile (fun byte => byte != slash) =
          slash :: below := by
      intro below
      rw [List.dropWhile_append_of_pos passed]
      rfl
    rw [pop, ofPath, reverse_ofSegments_concat, trim_name isName]
    split
    · next empty => simp at empty
    · next alone =>
      obtain ⟨byte, bytes, reversed⟩ := List.exists_cons_of_ne_nil
        (mt List.reverse_eq_nil_iff.mp isName.ne_nil)
      rw [reversed] at alone
      simp at alone
    · rw [shown, trim_slash earlier, List.dropLast_concat]
      rfl

/-- Following the components of segments leads where the segments resolve to. -/
theorem foldl_follow
    {segments stack : List Segment}
    (areNames : ∀ name ∈ stack, IsName name)
    (fit : ∀ segment ∈ segments, segment ≠ [] ∧ slash ∉ segment) :
    (segments.map Component.ofSegment).foldl follow
      (ofPath (ofSegments stack.reverse)) =
      ofPath (ofSegments (segments.foldl enter stack).reverse) := by
  induction segments generalizing stack with
  | nil => rfl
  | cons segment segments inductionHypothesis =>
      have fits := fit segment List.mem_cons_self
      have namesBelow : ∀ name ∈ stack.reverse, IsName name := by
        simpa using areNames
      have followed :
          follow (ofPath (ofSegments stack.reverse))
            (Component.ofSegment segment) =
            ofPath (ofSegments (enter stack segment).reverse) := by
        obtain rfl | rfl | isName := segment_cases fits
        · rfl
        · rw [enter_up, ← List.dropLast_reverse]
          exact pop_ofSegments namesBelow
        · rw [isName.enter_eq,
            List.reverse_cons, ← push_ofSegments namesBelow isName,
            Component.ofSegment, if_neg isName.ne_here, if_neg isName.ne_up]
          rfl
      rw [List.map_cons, List.foldl_cons, followed, List.foldl_cons]
      exact inductionHypothesis
        (fun other present => (isName_of_mem_enter areNames fits present).2)
        (fun other present => fit other (List.mem_cons_of_mem _ present))

end Buffer

/-! ## Normal forms -/

theorem segments_fromRoot
    (base path : Path) :
    (fromRoot base path).segments =
      (if path.isAbsolute then [] else base.segments) ++ path.segments := by
  unfold fromRoot
  split
  · rfl
  · exact segments_append_slash base.bytes path.bytes

/-- The normal form of a path is what its segments resolve to. -/
theorem normalize_eq
    {base path : Path}
    (isAbsolute : base.isAbsolute = true)
    (nonempty : path.bytes ≠ []) :
    normalize base path =
      .ok (ofSegments (resolve (fromRoot base path).segments)) := by
  obtain ⟨whole, made⟩ : ∃ whole, absolute base path = .ok whole := by
    unfold absolute
    rw [if_neg (by simpa using nonempty)]
    split <;> exact ⟨_, rfl⟩
  obtain ⟨wholeAbsolute, segments⟩ := segments_of_absolute isAbsolute made
  have fit : ∀ segment ∈ whole.moves, segment ≠ [] ∧ slash ∉ segment :=
    fun _ isMove =>
    ne_nil_of_mem_segments (List.mem_of_mem_filter isMove)
  have walked : whole.moves.foldl enter [] =
      (fromRoot base path).segments.foldl enter [] :=
    calc whole.moves.foldl enter []
      _ = whole.segments.foldl enter [] := foldl_enter_filter _ _
      _ = (fromRoot base path).segments.foldl enter [] := by
        rw [segments, segments_fromRoot, List.foldl_append,
          List.foldl_append, moves, foldl_enter_filter]
  have followed := Buffer.foldl_follow (List.forall_mem_nil IsName) fit
  rw [normalize, made, Except.map, components_of_isAbsolute wholeAbsolute,
    resolve, ← walked]
  exact congrArg Except.ok
    ((congrArg Buffer.toPath followed).trans (Buffer.toPath_ofPath _))

theorem eq_of_normalize
    {base path normal : Path}
    (isAbsolute : base.isAbsolute = true)
    (normalized : normalize base path = .ok normal) :
    ofSegments (resolve (fromRoot base path).segments) = normal := by
  have nonempty : path.bytes ≠ [] := fun empty => by
    rw [normalize_eq_error_iff.mpr ⟨rfl, empty⟩] at normalized
    cases normalized
  rw [normalize_eq isAbsolute nonempty] at normalized
  exact Except.ok.inj normalized

/-- What normalizing gives is normal. -/
theorem isNormal_of_normalize
    {base path normal : Path}
    (isAbsolute : base.isAbsolute = true)
    (normalized : normalize base path = .ok normal) :
    normal.IsNormal :=
  ⟨_, fun _ present =>
    (mem_resolve present).2, eq_of_normalize isAbsolute normalized⟩

/-- The normal form of a text is a text. -/
theorem IsText.normalize
    {base path normal : Path}
    (isAbsolute : base.isAbsolute = true)
    (baseText : base.IsText)
    (isText : path.IsText)
    (normalized : Path.normalize base path = .ok normal) :
    normal.IsText := by
  obtain rfl := eq_of_normalize isAbsolute normalized
  refine isText_ofSegments fun segment present => ?_
  have walked := (mem_resolve present).1
  rw [segments_fromRoot, List.mem_append] at walked
  obtain fromBase | fromPath := walked
  · split at fromBase
    · cases fromBase
    · exact baseText.segments fromBase
  · exact isText.segments fromPath

/-! ## Detours -/

/-- What leads nowhere between two slashes: nothing, `.`, and a
name followed by `..`. -/
inductive Idle : List UInt8 → Prop
  | nothing : Idle []
  | here : Idle here
  | back {name : Segment} : IsName name → Idle (name ++ slash :: up)

/-- What leads nowhere changes no stack. -/
theorem Idle.foldl_enter
    {detour : List UInt8}
    (idle : Idle detour)
    (stack : List Segment) :
    (segments ⟨detour⟩).foldl enter stack = stack := by
  cases idle with
  | nothing => rfl
  | here => exact enter_here stack
  | @back name isName =>
      rw [segments_append_slash, segments_word isName.ne_nil isName.unsplit,
        List.singleton_append, List.foldl_cons, isName.enter_eq]
      exact enter_up (name :: stack)

theorem Idle.resolve_eq
    {detour : List UInt8}
    (idle : Idle detour)
    (before behind : List Segment) :
    resolve (before ++ (segments ⟨detour⟩ ++ behind)) =
      resolve (before ++ behind) := by
  rw [resolve, resolve, List.foldl_append, List.foldl_append, idle.foldl_enter,
    List.foldl_append]

/-- A detour at the end does not show. -/
theorem Idle.normalize_append
    {base path : Path}
    (isAbsolute : base.isAbsolute = true)
    {detour : List UInt8}
    (idle : Idle detour)
    (nonempty : path.bytes ≠ []) :
    normalize base ⟨path.bytes ++ slash :: detour⟩ = normalize base path := by
  have sameStart : Path.isAbsolute ⟨path.bytes ++ slash :: detour⟩ =
      path.isAbsolute := by
    rw [Path.isAbsolute, Path.isAbsolute,
      List.head?_append_of_ne_nil _ nonempty]
  rw [normalize_eq isAbsolute (by simp), normalize_eq isAbsolute nonempty,
    segments_fromRoot, segments_fromRoot, sameStart, segments_append_slash]
  have resolved := idle.resolve_eq
    ((if path.isAbsolute then [] else base.segments) ++ path.segments) []
  rw [List.append_nil, List.append_nil, List.append_assoc] at resolved
  rw [← resolved]

/-- A detour at a slash does not show. -/
theorem Idle.normalize_insert
    {base : Path}
    (isAbsolute : base.isAbsolute = true)
    {detour : List UInt8}
    (idle : Idle detour)
    (front back : List UInt8) :
    normalize base ⟨front ++ slash :: (detour ++ slash :: back)⟩ =
      normalize base ⟨front ++ slash :: back⟩ := by
  have sameStart :
      Path.isAbsolute ⟨front ++ slash :: (detour ++ slash :: back)⟩ =
      Path.isAbsolute ⟨front ++ slash :: back⟩ := by
    cases front <;> rfl
  rw [normalize_eq isAbsolute (by simp), normalize_eq isAbsolute (by simp),
    segments_fromRoot,
    segments_fromRoot, sameStart, segments_append_slash front,
    segments_append_slash detour,
    segments_append_slash front, ← List.append_assoc, idle.resolve_eq,
    List.append_assoc]

/-! ## Normal forms of all paths -/

/-- Only the empty path has no normal form.  That of any other path is what
going along its segments from the root leaves, byte for byte.  It is absolute,
made of names, written with a slash at its end only if it is the root, and its
own normal form; and detours in the path do not show in it. -/
theorem resolved_of_normalize
    {base : Path}
    (isAbsolute : base.isAbsolute = true)
    (path : Path) :
    (∀ error, normalize base path = .error error ↔
      error = .emptyPath ∧ path.bytes = []) ∧
    (path.bytes ≠ [] → ∃ normal, normalize base path = .ok normal ∧
      normal.bytes =
        slash :: List.intercalate [slash]
          (resolve (fromRoot base path).segments) ∧
      normal.isAbsolute = true ∧
      (normal.bytes = [slash] ∨ ∀ piece ∈ (cut normal.bytes).tail,
        IsName piece) ∧
      (normal.endsInSlash = true ↔ normal.bytes = [slash]) ∧
      (∀ other : Path, other.isAbsolute = true →
        normalize other normal = .ok normal) ∧
      ∀ detour, Idle detour →
        normalize base ⟨path.bytes ++ slash :: detour⟩ = .ok normal ∧
        ∀ front back, path.bytes = front ++ slash :: back →
          normalize base ⟨front ++ slash :: (detour ++ slash :: back)⟩ =
            .ok normal) := by
  refine ⟨fun error => normalize_eq_error_iff, fun nonempty => ?_⟩
  have normalized := normalize_eq isAbsolute nonempty
  have areNames : ∀ name ∈ resolve (fromRoot base path).segments, IsName name :=
    fun _ present => (mem_resolve present).2
  obtain ⟨names, resolved⟩ :
      ∃ names, resolve (fromRoot base path).segments = names :=
    ⟨_, rfl⟩
  rw [resolved] at normalized areNames ⊢
  refine ⟨ofSegments names, normalized, bytes_ofSegments names, ?_,
    ?_, ?_, ?_, ?_⟩
  · exact isAbsolute_ofSegments names
  · cases names with
    | nil => exact .inl rfl
    | cons first later =>
        refine .inr fun piece present => areNames piece ?_
        rwa [show cut (ofSegments (first :: later)).bytes =
          [] :: first :: later from cut_flatMap areNames] at present
  · rw [endsInSlash_ofSegments areNames, bytes_ofSegments]
    cases names with
    | nil => simp
    | cons first later =>
        have isName := areNames first List.mem_cons_self
        cases later <;> simp [isName.ne_nil]
  · intro other otherAbsolute
    have itself : (fromRoot other (ofSegments names)).segments = names := by
      rw [fromRoot, if_pos (isAbsolute_ofSegments names),
        segments_ofSegments areNames]
    rw [normalize_eq otherAbsolute (by simp [bytes_ofSegments]), itself,
      resolve_names areNames]
  · intro detour idle
    refine ⟨(idle.normalize_append isAbsolute nonempty).trans normalized, ?_⟩
    intro front back written
    rw [idle.normalize_insert isAbsolute, ← written]
    exact normalized

/-- A relative path with `..`, a doubled slash, a slash at its end and a byte
that begins no character, and the same path with a detour at its first slash. -/
theorem resolved_of_normalize_of_detour :
    let base := ofString "/usr/lib/."
    let path : Path := ⟨[0x2E, 0x2E, 0x2F, 0x61, 0x2F, 0x2F, 0xFF, 0x2F]⟩
    base.isAbsolute = true ∧
      normalize base path = .ok ⟨(ofString "/usr/a/").bytes ++ [0xFF]⟩ ∧
      normalize base ⟨up ++ slash :: ((ofString "x/..").bytes ++
        slash :: [0x61, 0x2F, 0x2F, 0xFF, 0x2F])⟩ = normalize base path := by
  intro base path
  have isAbsolute : base.isAbsolute = true := by decide +kernel
  obtain ⟨normal, normalized, bytes, -, -, -, -, unseen⟩ :=
    (resolved_of_normalize isAbsolute path).2 (by decide)
  have written : normal.bytes = (ofString "/usr/a/").bytes ++ [0xFF] := by
    rw [bytes]
    decide +kernel
  have idle : Idle (ofString "x/..").bytes :=
    .back (show IsName [0x78] from ⟨by decide, by decide, by decide, by decide⟩)
  refine ⟨isAbsolute, ?_, ?_⟩
  · rw [normalized, ← written]
  · rw [normalized]
    exact (unseen _ idle).2 up [0x61, 0x2F, 0x2F, 0xFF, 0x2F] rfl

end Path
end HandlePool
