import HandlePool.Proofs.Path.Resolution
import HandlePool.Proofs.Text.Lenient

/-!
# Canonical keys

The key of a path shows the normal form segment by segment: the slash is a
single byte, so what stands between two slashes is shown on its own, and nothing
that is no text becomes a slash, a dot or an empty segment.  Shown names are
names again, so the key, taken as a path, is in normal form and is its own key.
-/

namespace HandlePool
namespace Path

theorem isSingle_slash : Utf8.IsSingle slash := by
  unfold Utf8.IsSingle
  decide

/-! ## Splitting what is shown -/

/-- Bytes without a slash are one piece, and so is what they are shown as. -/
theorem splitOn_lossy_of_notMem
    {word : List UInt8}
    (unsplit : slash ∉ word) :
    (Utf8.lossy word).splitOn '/' = (cut word).map Utf8.lossy := by
  have unshown : '/' ∉ Utf8.lossy word :=
    Utf8.single_notMem_lossy isSingle_slash unsplit
  obtain ⟨first, later, nothing, whole⟩ := cut_append unsplit []
  obtain ⟨rfl, rfl⟩ := List.cons.inj nothing
  rw [List.append_nil] at whole
  rw [List.splitOn_eq_singleton unshown, whole, List.map_singleton]

/-- Showing and splitting at slashes may change places. -/
theorem splitOn_lossy
    (bytes : List UInt8) :
    (Utf8.lossy bytes).splitOn '/' = (cut bytes).map Utf8.lossy := by
  by_cases present : slash ∈ bytes
  · obtain ⟨front, back, rfl, unsplit⟩ := List.eq_append_cons_of_mem present
    have behind := splitOn_lossy back
    have before := splitOn_lossy_of_notMem unsplit
    rw [Utf8.lossy_append_single isSingle_slash, cut_append_slash,
      List.map_append, ← before, ← behind]
    exact List.splitOn_append_cons_self _ _
  · exact splitOn_lossy_of_notMem present
termination_by bytes.length
decreasing_by simp_all; omega

/-- Only the bytes of a text without replacements are shown as this text. -/
theorem lossy_eq_iff_of_notMem
    {bytes : List UInt8}
    {characters : List Char}
    (unreplaced : Utf8.replacement ∉ characters) :
    Utf8.lossy bytes = characters ↔ bytes = Utf8.encode characters := by
  constructor
  · rintro rfl
    exact (Utf8.encode_lossy_of_notMem unreplaced).symm
  · rintro rfl
    exact Utf8.lossy_encode characters

/-! ## Shown names -/

/-- A segment as it is shown. -/
def reread (segment : Segment) : Segment := Utf8.encode (Utf8.lossy segment)

theorem reread_eq_iff_of_notMem
    {segment : Segment}
    {characters : List Char}
    (unreplaced : Utf8.replacement ∉ characters) :
    reread segment = Utf8.encode characters ↔
      segment = Utf8.encode characters := by
  rw [reread, Utf8.encode_injective.eq_iff, lossy_eq_iff_of_notMem unreplaced]

/-- A name is shown as a name. -/
theorem IsName.reread
    {name : Segment}
    (isName : IsName name) :
    IsName (reread name) where
  ne_nil := by
    rw [Ne, ← Utf8.encode_nil, reread_eq_iff_of_notMem (by decide)]
    exact isName.ne_nil
  unsplit := by
    intro present
    obtain ⟨character, shown, inCharacter⟩ := List.mem_flatMap.mp present
    refine slash_notMem_encodeChar ?_ inCharacter
    rintro rfl
    exact Utf8.single_notMem_lossy isSingle_slash isName.unsplit shown
  ne_here := by
    rw [Ne, show here = Utf8.encode ['.'] from rfl,
      reread_eq_iff_of_notMem (by decide)]
    exact isName.ne_here
  ne_up := by
    rw [Ne, show up = Utf8.encode ['.', '.'] from rfl,
      reread_eq_iff_of_notMem (by decide)]
    exact isName.ne_up

/-- Segments behind slashes are shown one by one. -/
theorem reread_flatMap
    (names : List Segment) :
    reread (names.flatMap fun name => slash :: name) =
      (names.map reread).flatMap fun name => slash :: name := by
  have divided : ∀ names : List Segment, ∀ word : Segment,
      Utf8.lossy (word ++ names.flatMap fun name => slash :: name) =
        Utf8.lossy word ++ names.flatMap fun name =>
          '/' :: Utf8.lossy name := by
    intro names
    induction names with
    | nil => simp
    | cons name names inductionHypothesis =>
        intro word
        rw [List.flatMap_cons, List.cons_append,
          Utf8.lossy_append_single isSingle_slash, inductionHypothesis]
        rfl
  have shown := divided names []
  rw [List.nil_append, Utf8.lossy_nil, List.nil_append] at shown
  rw [reread, shown, Utf8.encode, List.flatMap_assoc, List.flatMap_map]
  rfl

/-- A path made of segments is shown as the path made of the shown segments. -/
theorem ofString_display_ofSegments
    (names : List Segment) :
    ofString (ofSegments names).display = ofSegments (names.map reread) := by
  rw [ofString, display, String.toList_ofList]
  cases names with
  | nil =>
      rw [ofSegments, Utf8.lossy_cons_single isSingle_slash, Utf8.lossy_nil]
      rfl
  | cons name names => exact congrArg Path.mk (reread_flatMap (name :: names))

/-! ## Keys as paths -/

/-- A path in normal form is its own normal form. -/
theorem IsNormal.normalize_eq
    {path : Path}
    (isNormal : path.IsNormal)
    {base : Path}
    (isAbsolute : base.isAbsolute = true) :
    normalize base path = .ok path := by
  obtain ⟨names, areNames, rfl⟩ := isNormal
  have itself : (fromRoot base (ofSegments names)).segments = names := by
    rw [fromRoot, if_pos (isAbsolute_ofSegments names),
      segments_ofSegments areNames]
  rw [Path.normalize_eq isAbsolute (by simp [bytes_ofSegments]), itself,
    resolve_names areNames]

/-- A path in normal form is shown as a path in normal form. -/
theorem IsNormal.ofString_display
    {path : Path}
    (isNormal : path.IsNormal) :
    (ofString path.display).IsNormal := by
  obtain ⟨names, areNames, rfl⟩ := isNormal
  refine ⟨names.map reread, ?_, (ofString_display_ofSegments names).symm⟩
  intro shown present
  obtain ⟨name, isName, rfl⟩ := List.mem_map.mp present
  exact (areNames name isName).reread

/-- Every path but the empty one has a key.  Split at its slashes, the key is
the normal form split at its slashes and shown piece by piece; no piece becomes
empty, `.` or `..` that was not.  Every byte below `0x80`, so every slash and
every dot, is shown where it stands, and there are no more of them in the key.
The key is the normal form itself exactly if that is a text, and in all cases it
is, taken as a path, its own key. -/
theorem canonical_key
    {base : Path}
    (isAbsolute : base.isAbsolute = true)
    {path : Path}
    (nonempty : path.bytes ≠ []) :
    ∃ normal text, normalize base path = .ok normal ∧ key base path = .ok text ∧
      text.toList.splitOn '/' = (cut normal.bytes).map Utf8.lossy ∧
      (∀ piece ∈ cut normal.bytes,
        (Utf8.lossy piece = [] ↔ piece = []) ∧
        (Utf8.lossy piece = ['.'] ↔ piece = here) ∧
        (Utf8.lossy piece = ['.', '.'] ↔ piece = up)) ∧
      (∀ byte, Utf8.IsSingle byte →
        text.toList.count (Utf8.single byte) = normal.bytes.count byte ∧
        ∀ front back, normal.bytes = front ++ byte :: back →
          text.toList = Utf8.lossy front ++
            Utf8.single byte :: Utf8.lossy back) ∧
      (ofString text = normal ↔ normal.IsText) ∧
      ∀ other : Path, other.isAbsolute = true →
        key other (ofString text) = .ok text := by
  obtain ⟨normal, normalized⟩ : ∃ normal, normalize base path = .ok normal :=
    ⟨_, normalize_eq isAbsolute nonempty⟩
  have isNormal := isNormal_of_normalize isAbsolute normalized
  have shown : normal.display.toList = Utf8.lossy normal.bytes := by
    rw [display, String.toList_ofList]
  refine ⟨normal, normal.display, normalized, by rw [key, normalized]; rfl, ?_,
    ?_, ?_, ?_, ?_⟩
  · rw [shown, splitOn_lossy]
  · intro piece _
    exact ⟨lossy_eq_iff_of_notMem (by decide),
      lossy_eq_iff_of_notMem (by decide), lossy_eq_iff_of_notMem (by decide)⟩
  · intro byte isSingle
    rw [shown]
    refine ⟨Utf8.count_lossy isSingle normal.bytes, ?_⟩
    intro front back written
    rw [written, Utf8.lossy_append_single isSingle]
  · constructor
    · exact fun same => ⟨_, same⟩
    · rintro ⟨text, rfl⟩
      rw [display_ofString]
  · intro other otherAbsolute
    have itself := isNormal.ofString_display.normalize_eq otherAbsolute
    rw [key, itself, Except.map, display_ofString]

/-- A character cut short in front of a slash, and another
one in front of two dots. -/
theorem canonical_key_of_cut_short :
    let base := ofString "/"
    let path : Path :=
      ⟨[0x61, 0xE2, 0x82, 0x2F, 0xF0, 0x9F, 0x2E, 0x2E, 0x2F, 0x2E, 0x2E,
      0x2F, 0xF0, 0x2E, 0x2F]⟩
    base.isAbsolute = true ∧ path.bytes ≠ [] ∧
      key base path = .ok "/a\uFFFD/\uFFFD." ∧
      key base (ofString "/a\uFFFD/\uFFFD.") = .ok "/a\uFFFD/\uFFFD." := by
  intro base path
  have isAbsolute : base.isAbsolute = true := by decide +kernel
  have nonempty : path.bytes ≠ [] := by decide
  obtain ⟨normal, text, normalized, isKey, -, -, -, -, again⟩ :=
    canonical_key isAbsolute nonempty
  have written : text = "/a\uFFFD/\uFFFD." := by
    rw [key, normalize_eq isAbsolute nonempty] at isKey
    rw [← Except.ok.inj isKey]
    decide +kernel
  subst written
  exact ⟨isAbsolute, nonempty, isKey, again base isAbsolute⟩

end Path
end HandlePool
