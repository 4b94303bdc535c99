/- Plain segments keep their place in the path of a URL, whatever stands in front of them. -/
import TenantScope.Net.UrlPath
import TenantScope.Proofs.Text.Split

namespace TenantScope.Url

/-! Segments -/

/-- Whether a segment stands for itself and not for a directory. -/
def isSolid (segment : Text) : Bool := !isSingleDot segment && !isDoubleDot segment

/-- Whether a segment is written as it is. -/
def isPlainSegment (segment : Text) : Bool :=
  isSolid segment && segment.all fun c => isPathChar c && !SchemeKind.web.isSlash c

/-- Segments with a slash in front of each. -/
def slashed (segments : List Text) : Text := segments.flatMap fun segment => '/' :: segment

/-- The directories that segments lead to; `closed` holds those so far, last first. -/
def directories (closed : List Text) : List Text → List Text
  | [] => closed.reverse
  | segment :: rest =>
    if isDoubleDot segment then directories (climb closed) rest
    else if isSingleDot segment then directories closed rest
    else directories (segment :: closed) rest

theorem isSolid_eq_true {segment : Text} :
    isSolid segment = true ↔ isSingleDot segment = false ∧ isDoubleDot segment = false := by
  simp only [isSolid, Bool.and_eq_true, Bool.not_eq_true']

theorem climb_ne_nil {closed : List Text} (h : closed ≠ []) : climb closed ≠ [] := by
  unfold climb
  split
  · split <;> exact List.cons_ne_nil _ _
  · exact h

theorem directories_ne_nil {closed : List Text} (h : closed ≠ []) (segments : List Text) :
    directories closed segments ≠ [] := by
  induction segments generalizing closed with
  | nil => exact fun hnil => h (List.reverse_eq_nil_iff.mp hnil)
  | cons segment rest ih =>
      unfold directories
      split
      · exact ih (climb_ne_nil h)
      · split
        · exact ih h
        · exact ih (List.cons_ne_nil _ _)

theorem resolve_of_isSolid (closed : List Text) {segments : List Text}
    (h : ∀ segment ∈ segments, isSolid segment = true) :
    resolve .web closed segments = closed.reverse ++ segments := by
  induction segments generalizing closed with
  | nil => rw [resolve, List.append_nil]
  | cons segment rest ih =>
      obtain ⟨hsingle, hdouble⟩ := isSolid_eq_true.mp (h segment List.mem_cons_self)
      simp only [resolve, hsingle, hdouble, Bool.false_eq_true, if_false, reduceCtorEq, false_and]
      rw [ih _ fun s hs => h s (List.mem_cons_of_mem _ hs), List.reverse_cons, List.append_assoc]
      rfl

/-- Solid segments stand behind the directories that the segments in front of them lead to. -/
theorem resolve_append (closed segments : List Text) {solid : List Text} (hne : solid ≠ [])
    (h : ∀ segment ∈ solid, isSolid segment = true) :
    resolve .web closed (segments ++ solid) = directories closed segments ++ solid := by
  induction segments generalizing closed with
  | nil => exact resolve_of_isSolid closed h
  | cons segment rest ih =>
      have hmore : rest ++ solid ≠ [] := fun hnil => hne (List.append_eq_nil_iff.mp hnil).2
      rw [List.cons_append]
      simp only [resolve, directories, hmore, if_false, List.nil_append, reduceCtorEq, false_and]
      split
      · exact ih _
      · split
        · exact ih _
        · exact ih _

/-! Texts of segments -/

theorem slashed_append (segments rest : List Text) :
    slashed (segments ++ rest) = slashed segments ++ slashed rest := List.flatMap_append

theorem join_cons (segment : Text) (rest : List Text) :
    Text.join ['/'] (segment :: rest) = segment ++ slashed rest := by
  induction rest generalizing segment with
  | nil => rw [Text.join_singleton, slashed, List.flatMap_nil, List.append_nil]
  | cons next rest ih =>
      rw [Text.join_cons_cons, ih]
      rfl

theorem join_append {front : List Text} (hne : front ≠ []) (segments : List Text) :
    Text.join ['/'] (front ++ segments) = Text.join ['/'] front ++ slashed segments := by
  cases front with
  | nil => exact absurd rfl hne
  | cons segment rest =>
      rw [List.cons_append, join_cons, join_cons, slashed_append, List.append_assoc]

/-! Plain segments -/

theorem isSolid_of_isPlainSegment {segment : Text} (h : isPlainSegment segment = true) :
    isSolid segment = true := by
  rw [isPlainSegment, Bool.and_eq_true] at h
  exact h.1

theorem isPathChar_of_mem {segment : Text} (h : isPlainSegment segment = true) {c : Char}
    (hc : c ∈ segment) : isPathChar c = true ∧ SchemeKind.web.isSlash c = false := by
  rw [isPlainSegment, Bool.and_eq_true, List.all_eq_true] at h
  have hboth := h.2 c hc
  rwa [Bool.and_eq_true, Bool.not_eq_true'] at hboth

theorem not_isIgnored_of_isPathChar {c : Char} (h : isPathChar c = true) : isIgnored c = false := by
  cases hc : isIgnored c with
  | false => rfl
  | true =>
      simp only [isIgnored, Bool.or_eq_true, beq_iff_eq] at hc
      rcases hc with (rfl | rfl) | rfl <;> cases h

theorem encode_of_isPlainSegment {segment : Text} (h : isPlainSegment segment = true) :
    Percent.encode isPathChar segment = segment := by
  have hkeep : ∀ c ∈ segment,
      (if isPathChar c = true then [c] else Percent.encodeChar c) = [c] :=
    fun c hc => if_pos (isPathChar_of_mem h hc).1
  rw [Percent.encode, List.flatMap_congr hkeep, List.flatMap_singleton']

theorem splitAll_append_slashed (s : Text) {segments : List Text}
    (h : ∀ segment ∈ segments, isPlainSegment segment = true) :
    splitAll SchemeKind.web.isSlash (s ++ slashed segments) =
      splitAll SchemeKind.web.isSlash s ++ segments := by
  induction segments generalizing s with
  | nil => rw [slashed, List.flatMap_nil, List.append_nil, List.append_nil]
  | cons segment rest ih =>
      have hnot : ∀ c ∈ segment, SchemeKind.web.isSlash c = false :=
        fun c hc => (isPathChar_of_mem (h segment List.mem_cons_self) hc).2
      have hcons : slashed (segment :: rest) = '/' :: (segment ++ slashed rest) := rfl
      rw [hcons, splitAll_append_sep _ _ rfl, ih _ fun t ht => h t (List.mem_cons_of_mem _ ht),
        splitAll_of_forall_not hnot]
      rfl

theorem filter_slashed {segments : List Text}
    (h : ∀ segment ∈ segments, isPlainSegment segment = true) :
    (slashed segments).filter (fun c => !isIgnored c) = slashed segments := by
  refine List.filter_eq_self.mpr fun c hc => ?_
  obtain ⟨segment, hmem, hc⟩ := List.mem_flatMap.mp hc
  rcases List.mem_cons.mp hc with rfl | hc
  · rfl
  · rw [not_isIgnored_of_isPathChar (isPathChar_of_mem (h segment hmem) hc).1]
    rfl

/-! Written paths -/

/-- A text without the characters that no URL keeps, with a slash in front unless it is empty. -/
def cleaned (s : Text) : Text :=
  match s.filter fun c => !isIgnored c with
  | [] => []
  | kept => rooted .web kept

/-- The directories that a text leads to as the front of a path. -/
def frontOf (s : Text) : List Text :=
  directories [] ((splitAll SchemeKind.web.isSlash (cleaned s)).map (Percent.encode isPathChar))

theorem rooted_append_slashed (s : Text) {segments : List Text} (hne : segments ≠ [])
    (h : ∀ segment ∈ segments, isPlainSegment segment = true) :
    rooted .web ((s ++ slashed segments).filter fun c => !isIgnored c) =
      cleaned s ++ slashed segments := by
  rw [List.filter_append, filter_slashed h, cleaned]
  cases s.filter fun c => !isIgnored c with
  | nil =>
      cases segments with
      | nil => exact absurd rfl hne
      | cons segment rest => rfl
  | cons c kept =>
      simp only [List.cons_append, rooted]
      split <;> rfl

theorem exists_splitAll_cleaned (s : Text) :
    ∃ rest, splitAll SchemeKind.web.isSlash (cleaned s) = [] :: rest := by
  unfold cleaned
  cases s.filter fun c => !isIgnored c with
  | nil => exact ⟨[], rfl⟩
  | cons c kept =>
      simp only [rooted]
      split
      · exact ⟨_, splitAll_cons_sep _ ‹_›⟩
      · exact ⟨_, splitAll_cons_sep _ rfl⟩

theorem frontOf_ne_nil (s : Text) : frontOf s ≠ [] := by
  obtain ⟨rest, hrest⟩ := exists_splitAll_cleaned s
  rw [frontOf, hrest]
  exact directories_ne_nil (List.cons_ne_nil _ _) _

/-- Plain segments stand as they are behind what is written for the text in front of them. -/
theorem pathOf_append_slashed (front : Front) (s : Text) {segments : List Text}
    (hne : segments ≠ []) (h : ∀ segment ∈ segments, isPlainSegment segment = true) :
    pathOf .web front (s ++ slashed segments) =
      Text.join ['/'] (frontOf s) ++ slashed segments := by
  have hsolid : ∀ segment ∈ segments, isSolid segment = true :=
    fun segment hmem => isSolid_of_isPlainSegment (h segment hmem)
  have hencode : segments.map (Percent.encode isPathChar) = segments :=
    (List.map_congr_left fun segment hmem => encode_of_isPlainSegment (h segment hmem)).trans
      (List.map_id segments)
  simp only [pathOf]
  rw [rooted_append_slashed s hne h, segmented, splitAll_append_slashed _ h, List.map_append,
    hencode, resolve_append [] _ hne hsolid]
  exact join_append (frontOf_ne_nil s) segments

/-- What a URL writes for a text in front of the segments of a path. -/
def writtenFront (u : Url) (s : Text) : Text := (u.withPath (s ++ ['/'])).path.dropLast

theorem path_withPath {u : Url} (hkind : u.kind = .web) (hslashes : u.isOpaque = false) (s : Text) :
    (u.withPath s).path = pathOf .web u.front s := by
  simp only [withPath, hkind, hslashes, Bool.false_eq_true, if_false]

theorem writtenFront_eq {u : Url} (hkind : u.kind = .web) (hslashes : u.isOpaque = false)
    (s : Text) : u.writtenFront s = Text.join ['/'] (frontOf s) := by
  have hempty : ∀ segment ∈ [([] : Text)], isPlainSegment segment = true := by decide
  have hpath := pathOf_append_slashed u.front s (List.cons_ne_nil _ _) hempty
  have hslash : slashed [([] : Text)] = ['/'] := rfl
  rw [hslash] at hpath
  rw [writtenFront, path_withPath hkind hslashes, hpath, List.dropLast_concat]

/-- A path of plain segments is written behind what the URL writes for the text in front of it. -/
theorem path_withPath_append {u : Url} (hkind : u.kind = .web) (hslashes : u.isOpaque = false)
    (s : Text) {segments : List Text} (hne : segments ≠ [])
    (h : ∀ segment ∈ segments, isPlainSegment segment = true) :
    (u.withPath (s ++ slashed segments)).path = u.writtenFront s ++ slashed segments := by
  rw [path_withPath hkind hslashes, pathOf_append_slashed _ s hne h, writtenFront_eq hkind hslashes]

/-- Plain segments are written as they are. -/
theorem writtenFront_slashed {u : Url} (hkind : u.kind = .web) (hslashes : u.isOpaque = false)
    {segments : List Text} (h : ∀ segment ∈ segments, isPlainSegment segment = true) :
    u.writtenFront (slashed segments) = slashed segments := by
  have hmore : ∀ segment ∈ segments ++ [[]], isPlainSegment segment = true := by
    intro segment hmem
    rcases List.mem_append.mp hmem with hmem | hmem
    · exact h segment hmem
    · rw [List.mem_singleton.mp hmem]
      decide
  have hne : segments ++ [([] : Text)] ≠ [] := List.append_ne_nil_of_right_ne_nil _ (by decide)
  have hpath := path_withPath_append hkind hslashes [] hne hmore
  have hfront : u.writtenFront [] = [] := by rw [writtenFront_eq hkind hslashes]; rfl
  have hslash : slashed [([] : Text)] = ['/'] := rfl
  rw [List.nil_append, hfront, List.nil_append, slashed_append, hslash] at hpath
  rw [writtenFront, hpath, List.dropLast_concat]

/-! Texts that are written as they are -/

/-- A text that a URL writes as it is in front of a path: it is empty or begins with a slash, its
characters are those of paths, and none of its segments stands for a directory. -/
structure IsPlainFront (s : Text) : Prop where
  rooted : s = [] ∨ s.head? = some '/'
  chars : ∀ c ∈ s, isPathChar c = true ∧ c ≠ '\\'
  solid : ∀ segment ∈ splitAll (· == '/') s, isSolid segment = true

/-- A plain front is made of plain segments. -/
theorem IsPlainFront.exists_slashed {s : Text} (h : IsPlainFront s) :
    ∃ segments, s = slashed segments ∧
      ∀ segment ∈ segments, isPlainSegment segment = true := by
  cases s with
  | nil => exact ⟨[], rfl, List.forall_mem_nil _⟩
  | cons c t =>
      have hc : c = '/' := by
        rcases h.rooted with hnil | hhead
        · cases hnil
        · exact Option.some.inj hhead
      subst hc
      have hsplit : splitAll (· == '/') ('/' :: t) = [] :: splitAll (· == '/') t :=
        splitAll_cons_sep t rfl
      have htext : '/' :: t = slashed (splitAll (· == '/') t) := by
        have hjoin : Text.join ['/'] (splitAll (· == '/') ('/' :: t)) = '/' :: t :=
          intercalate_splitAll '/' ('/' :: t)
        rw [hsplit, join_cons, List.nil_append] at hjoin
        exact hjoin.symm
      refine ⟨_, htext, fun segment hmem => ?_⟩
      rw [isPlainSegment, h.solid segment (hsplit ▸ List.mem_cons_of_mem _ hmem), Bool.true_and,
        List.all_eq_true]
      intro d hd
      obtain ⟨hpath, hback⟩ := h.chars d
        (htext ▸ List.mem_flatMap.mpr ⟨segment, hmem, List.mem_cons_of_mem _ hd⟩)
      rw [hpath, SchemeKind.isSlash, not_isSep_of_mem_splitAll hmem d hd,
        beq_eq_false_iff_ne.mpr hback]
      rfl

end TenantScope.Url
