/-
What paths say: where they start (`anchor`), and the names that follow (`names`). Slashes that
follow each other, single points after the start, and slashes at the end do not count, so two texts
can be the same path (`SamePath`).

Taking the last name off a path leaves the others where they were (`parent?_of_backwards`), and
joining a path to a directory puts its names behind those of the directory (`names_join`). Hence what
is joined to a directory stands directly in it exactly when it is one name (`childOf_join_iff`).
-/
import Mathlib.Data.List.Basic
import Mathlib.Tactic.NthRewrite
import ServiceSchema.Files.Path

namespace ServiceSchema.Path

variable {path part first dir name : String} {more ps above : List String}

/-! ## Parts -/

theorem exists_cutAtSlashes (cs : List Char) : ∃ first more, cutAtSlashes cs = first :: more := by
  match cs with
  | [] => exact ⟨[], [], rfl⟩
  | c :: rest =>
    rw [cutAtSlashes]
    split
    · exact ⟨_, _, rfl⟩
    · split <;> exact ⟨_, _, rfl⟩

theorem cutAtSlashes_cons {c : Char} {rest first : List Char} {more : List (List Char)} (hc : c ≠ '/')
    (h : cutAtSlashes rest = first :: more) : cutAtSlashes (c :: rest) = (c :: first) :: more := by
  simp [cutAtSlashes, hc, h]

theorem cutAtSlashes_eq_splitOn (cs : List Char) : cutAtSlashes cs = cs.splitOn '/' := by
  induction cs with
  | nil => exact (List.splitOn_nil _).symm
  | cons c rest ih =>
    obtain ⟨first, more, hrest⟩ := exists_cutAtSlashes rest
    rw [List.splitOn_cons_eq_if_modifyHead, ← ih, hrest]
    by_cases hc : c = '/'
    · simp [cutAtSlashes, hc, hrest]
    · simp [cutAtSlashes_cons hc hrest, hc]

theorem parts_eq_splitOn (path : String) :
    parts path = (path.toList.splitOn '/').map String.ofList := by
  rw [parts, cutAtSlashes_eq_splitOn]

theorem parts_ne_nil (path : String) : parts path ≠ [] := by
  simp [parts_eq_splitOn, List.splitOn_ne_nil]

theorem parts_append_slash (s t : String) : parts (s ++ "/" ++ t) = parts s ++ parts t := by
  have happend : (s ++ "/" ++ t).toList = s.toList ++ '/' :: t.toList := by simp
  rw [parts_eq_splitOn, happend, List.splitOn_append_cons_self, List.map_append, parts_eq_splitOn,
    parts_eq_splitOn]

theorem parts_of_not_mem (h : '/' ∉ part.toList) : parts part = [part] := by
  rw [parts_eq_splitOn, List.splitOn_eq_singleton h, List.map_singleton, String.ofList_toList]

theorem slash_not_mem_cutAtSlashes (cs : List Char) : ∀ part ∈ cutAtSlashes cs, '/' ∉ part := by
  induction cs with
  | nil => simp [cutAtSlashes]
  | cons c rest ih =>
    obtain ⟨first, more, hrest⟩ := exists_cutAtSlashes rest
    rw [hrest, List.forall_mem_cons] at ih
    by_cases hc : c = '/'
    · simpa [cutAtSlashes, hc, hrest] using ih
    · simpa [cutAtSlashes_cons hc hrest, Ne.symm hc] using ih

theorem slash_not_mem_of_mem_parts (h : part ∈ parts path) : '/' ∉ part.toList := by
  obtain ⟨cs, hcs, rfl⟩ := List.mem_map.1 h
  rw [String.toList_ofList]
  exact slash_not_mem_cutAtSlashes _ cs hcs

theorem intercalate_parts (path : String) : "/".intercalate (parts path) = path := by
  rw [← String.toList_inj, String.toList_intercalate, parts_eq_splitOn, List.map_map]
  simp [Function.comp_def]

theorem parts_intercalate (hne : ps ≠ []) (h : ∀ p ∈ ps, '/' ∉ p.toList) :
    parts ("/".intercalate ps) = ps := by
  induction ps with
  | nil => exact absurd rfl hne
  | cons p more ih =>
    obtain ⟨hp, hmore⟩ := List.forall_mem_cons.1 h
    cases more with
    | nil => rw [String.intercalate_singleton, parts_of_not_mem hp]
    | cons q more =>
      rw [String.intercalate_cons_cons, parts_append_slash, ih (List.cons_ne_nil _ _) hmore,
        parts_of_not_mem hp, List.singleton_append]

theorem parts_eq_nothing : parts path = [""] ↔ path = "" := by
  constructor
  · intro h
    rw [← intercalate_parts path, h, String.intercalate_singleton]
  · rintro rfl
    rfl

/-! ## Where a path starts -/

theorem parts_root (rest : String) : parts ("/" ++ rest) = "" :: parts rest :=
  parts_append_slash "" rest

theorem parts_belowHere (rest : String) : parts ("./" ++ rest) = "." :: parts rest :=
  parts_append_slash "." rest

theorem anchor_root (rest : String) : anchor ("/" ++ rest) = "/" := by
  simp [anchor]

theorem anchor_belowHere (rest : String) : anchor ("./" ++ rest) = "." := by
  simp [anchor]

theorem anchor_of_not_idle (hparts : parts path = first :: more) (hfirst : isIdle first = false) :
    anchor path = "" := by
  unfold anchor
  split
  · rename_i rest hpath
    have hroot : path = "/" ++ String.ofList rest := String.toList_inj.1 (by simp [hpath])
    rw [hroot, parts_root] at hparts
    obtain ⟨rfl, -⟩ := List.cons.inj hparts
    cases hfirst
  · rename_i hpath
    have hhere : path = "." := String.toList_inj.1 hpath
    subst hhere
    obtain ⟨rfl, -⟩ := List.cons.inj hparts
    cases hfirst
  · rename_i rest hpath
    have hhere : path = "./" ++ String.ofList rest := String.toList_inj.1 (by simp [hpath])
    rw [hhere, parts_belowHere] at hparts
    obtain ⟨rfl, -⟩ := List.cons.inj hparts
    cases hfirst
  · rfl

/-- How a path can start: with the root, with the working directory by name, or with neither. -/
inductive Start : String → Prop
  | root (rest : String) : Start ("/" ++ rest)
  | here : Start "."
  | belowHere (rest : String) : Start ("./" ++ rest)
  | empty : Start ""
  | named (path first : String) (more : List String) (hparts : parts path = first :: more)
    (hfirst : isIdle first = false) : Start path

theorem start (path : String) : Start path := by
  obtain ⟨first, more, hparts⟩ := List.exists_cons_of_ne_nil (parts_ne_nil path)
  by_cases hfirst : isIdle first = false
  · exact .named path first more hparts hfirst
  have hidle : first = "" ∨ first = "." := by simpa [isIdle, imp_iff_not_or] using hfirst
  rw [← intercalate_parts path, hparts]
  cases more with
  | nil =>
    rw [String.intercalate_singleton]
    rcases hidle with rfl | rfl
    · exact .empty
    · exact .here
  | cons next more =>
    rw [String.intercalate_cons_cons]
    rcases hidle with rfl | rfl
    · exact .root _
    · exact .belowHere _

/-- The start of a path, by its parts: nothing comes before the slash of an absolute one. -/
theorem anchor_eq (path : String) :
    anchor path =
      if parts path = [""] then "" else if (parts path).head? = some "" then "/"
      else if (parts path).head? = some "." then "." else "" := by
  cases start path with
  | root rest => simp [anchor_root, parts_root, parts_ne_nil]
  | here => rfl
  | belowHere rest => simp [anchor_belowHere, parts_belowHere]
  | empty => rfl
  | named _ first more hparts hfirst =>
    rw [anchor_of_not_idle hparts hfirst, hparts]
    simp only [isIdle, Bool.or_eq_false_iff, decide_eq_false_iff_not] at hfirst
    simp [hfirst]

/-! ## Names -/

/-- The names on a path, from where it starts. -/
def names (path : String) : List String := (parts path).filter (!isIdle ·)

/-- Two texts for one path. -/
structure SamePath (path other : String) : Prop where
  anchor : anchor path = anchor other
  names : names path = names other

/-- A path without where it starts. -/
def rest (path : String) : String := String.ofList (path.toList.drop (anchor path).length)

theorem backwards_eq (path : String) :
    backwards path = (parts (rest path)).reverse.dropWhile isIdle := rfl

theorem rest_root (below : String) : rest ("/" ++ below) = below := by
  rw [rest, anchor_root]
  simp [show "/".length = 1 from rfl]

theorem rest_belowHere (below : String) : rest ("./" ++ below) = "/" ++ below := by
  rw [rest, anchor_belowHere]
  simp [show ".".length = 1 from rfl]

theorem rest_of_not_idle (hparts : parts path = first :: more) (hfirst : isIdle first = false) :
    rest path = path := by
  simp [rest, anchor_of_not_idle hparts hfirst]

theorem names_rest (path : String) : names (rest path) = names path := by
  cases start path with
  | root below => simp [names, rest_root, parts_root, isIdle]
  | here => rfl
  | belowHere below => simp [names, rest_belowHere, parts_root, parts_belowHere, isIdle]
  | empty => rfl
  | named _ first more hparts hfirst => rw [rest_of_not_idle hparts hfirst]

theorem filter_dropWhile_idle (ps : List String) :
    (ps.dropWhile isIdle).filter (!isIdle ·) = ps.filter (!isIdle ·) := by
  induction ps with
  | nil => rfl
  | cons p more ih => by_cases hp : isIdle p <;> simp [hp, ih]

theorem names_eq_backwards (path : String) :
    names path = ((backwards path).filter (!isIdle ·)).reverse := by
  rw [backwards_eq, filter_dropWhile_idle, List.filter_reverse, List.reverse_reverse, ← names_rest]
  rfl

theorem names_intercalate (h : ∀ p ∈ ps, '/' ∉ p.toList) :
    names ("/".intercalate ps) = ps.filter (!isIdle ·) := by
  by_cases hne : ps = []
  · subst hne
    rfl
  · rw [names, parts_intercalate hne h]

theorem anchor_cases (path : String) : anchor path = "" ∨ anchor path = "/" ∨ anchor path = "." := by
  unfold anchor
  split <;> simp

theorem anchor_anchor (path : String) : anchor (anchor path) = anchor path := by
  rcases anchor_cases path with h | h | h <;> rw [h] <;> rfl

theorem names_anchor (path : String) : names (anchor path) = [] := by
  rcases anchor_cases path with h | h | h <;> rw [h] <;> rfl

/-- A path cut off after some of its parts starts where it started, and has the names among them. -/
theorem anchor_names_cutOff (hps : ps <+: parts (rest path)) (hne : ps ≠ [""]) :
    anchor (anchor path ++ "/".intercalate ps) = anchor path ∧
      names (anchor path ++ "/".intercalate ps) = ps.filter (!isIdle ·) := by
  have hslash : ∀ p ∈ ps, '/' ∉ p.toList := fun p hp => slash_not_mem_of_mem_parts (hps.mem hp)
  rw [← names_intercalate hslash]
  cases ps with
  | nil =>
    rw [String.intercalate_nil, String.append_empty]
    exact ⟨anchor_anchor path, names_anchor path⟩
  | cons p ps =>
    cases start path with
    | root below =>
      rw [anchor_root, anchor_root, names, parts_root]
      exact ⟨rfl, rfl⟩
    | here | empty =>
      exact absurd (List.cons_prefix_cons.1 hps) (by simpa using hne)
    | belowHere below =>
      rw [rest_belowHere, parts_root, List.cons_prefix_cons] at hps
      obtain ⟨rfl, -⟩ := hps
      obtain ⟨q, ps, rfl⟩ := List.exists_cons_of_ne_nil fun hnil : ps = [] => hne (by rw [hnil])
      have htext (below : String) : "." ++ ("" ++ "/" ++ below) = "./" ++ below := by
        rw [← String.append_assoc]
        rfl
      rw [anchor_belowHere, String.intercalate_cons_cons, htext, anchor_belowHere, names, names,
        parts_belowHere, parts_append_slash]
      exact ⟨rfl, rfl⟩
    | named _ first more hparts hfirst =>
      rw [rest_of_not_idle hparts hfirst, hparts, List.cons_prefix_cons] at hps
      obtain ⟨rfl, hps⟩ := hps
      have hself := parts_intercalate (List.cons_ne_nil _ _) hslash
      rw [anchor_of_not_idle hparts hfirst, String.empty_append]
      exact ⟨anchor_of_not_idle hself hfirst, rfl⟩

/-! ## Taking off the last name -/

theorem isIdle_of_dropWhile (h : ps.dropWhile isIdle = name :: above) : isIdle name = false := by
  simpa [h] using List.head?_dropWhile_not isIdle ps

/-- What remains of a path without its last name starts where the path does, and has its other
names. -/
theorem parent?_of_backwards (h : backwards path = name :: above) :
    ∃ up, parent? path = some up ∧ anchor up = anchor path ∧ names path = names up ++ [name] := by
  have hname : isIdle name = false := isIdle_of_dropWhile (backwards_eq path ▸ h)
  have hparent : parent? path =
      some (anchor path ++ "/".intercalate (above.dropWhile isIdle).reverse) := by
    rw [parent?, h]
  have hprefix : (above.dropWhile isIdle).reverse <+: parts (rest path) := by
    have hback : backwards path <:+ (parts (rest path)).reverse := List.dropWhile_suffix isIdle
    have habove : above.dropWhile isIdle <:+ backwards path :=
      h ▸ (List.dropWhile_suffix isIdle).trans (List.suffix_cons name above)
    simpa using List.reverse_prefix.2 (habove.trans hback)
  have hne : (above.dropWhile isIdle).reverse ≠ [""] := by
    intro hnothing
    rw [List.reverse_eq_iff] at hnothing
    exact absurd (isIdle_of_dropWhile hnothing) (by decide)
  obtain ⟨hanchor, hnames⟩ := anchor_names_cutOff hprefix hne
  refine ⟨_, hparent, hanchor, ?_⟩
  rw [hnames, List.filter_reverse, filter_dropWhile_idle, names_eq_backwards, h]
  simp [hname]

/-! ## Joining -/

theorem names_append_slash (s t : String) : names (s ++ "/" ++ t) = names s ++ names t := by
  rw [names, parts_append_slash, List.filter_append]
  rfl

theorem anchor_append_slash (s t : String) :
    anchor (s ++ "/" ++ t) = if s = "" then "/" else anchor s := by
  by_cases hs : s = ""
  · subst hs
    exact anchor_root t
  · have hmore : parts s ++ parts t ≠ [""] := by
      obtain ⟨first, more, hparts⟩ := List.exists_cons_of_ne_nil (parts_ne_nil s)
      simp [hparts, parts_ne_nil]
    rw [if_neg hs, anchor_eq, anchor_eq s, parts_append_slash, if_neg hmore,
      if_neg (mt parts_eq_nothing.1 hs), List.head?_append_of_ne_nil _ (parts_ne_nil s)]

/-- The three ways in which a path is put behind a directory. -/
theorem join_cases (dir : String) (hanchor : anchor path ≠ "/") :
    dir = "" ∧ join dir path = path ∨
      (∃ up, dir = up ++ "/" ++ "" ∧ join dir path = up ++ "/" ++ path) ∨
      dir ≠ "" ∧ join dir path = dir ++ "/" ++ path := by
  by_cases hdir : dir = ""
  · exact .inl ⟨hdir, by simp [join, hanchor, hdir]⟩
  by_cases hslash : dir.toList.getLast? = some '/'
  · obtain ⟨up, hup⟩ := List.getLast?_eq_some_iff.1 hslash
    have hdir' : dir = String.ofList up ++ "/" ++ "" := String.toList_inj.1 (by simp [hup])
    refine .inr (.inl ⟨String.ofList up, hdir', ?_⟩)
    rw [join, if_neg hanchor, if_pos (by simp [hslash])]
    nth_rewrite 1 [hdir']
    rw [String.append_empty]
  · exact .inr (.inr ⟨hdir, by simp [join, hanchor, hdir, hslash]⟩)

/-- A name is put behind the parts of the directory, save an empty one at the end. -/
theorem parts_join (dir : String) (hname : isIdle name = false) (hslash : '/' ∉ name.toList) :
    ∃ ps, parts (join dir name) = ps ++ [name] ∧ (parts dir = ps ∨ parts dir = ps ++ [""]) := by
  have hparts : parts name = [name] := parts_of_not_mem hslash
  have hanchor : anchor name ≠ "/" := (anchor_of_not_idle hparts hname).trans_ne (by decide)
  rcases join_cases dir hanchor with ⟨rfl, h⟩ | ⟨up, rfl, h⟩ | ⟨-, h⟩
  · exact ⟨[], by rw [h, hparts, List.nil_append], .inr rfl⟩
  · exact ⟨parts up, by rw [h, parts_append_slash, hparts], .inr (parts_append_slash up "")⟩
  · exact ⟨parts dir, by rw [h, parts_append_slash, hparts], .inl rfl⟩

/-- A path that is not absolute puts its names behind those of the directory. -/
theorem names_join (dir : String) (hanchor : anchor path ≠ "/") :
    names (join dir path) = names dir ++ names path := by
  rcases join_cases dir hanchor with ⟨rfl, h⟩ | ⟨up, rfl, h⟩ | ⟨-, h⟩
  · rw [h]
    rfl
  · rw [h, names_append_slash, names_append_slash]
    simp [show names "" = [] from rfl]
  · rw [h, names_append_slash]

theorem anchor_join (dir : String) (hanchor : anchor path = "") : anchor (join dir path) = anchor dir := by
  rcases join_cases dir (hanchor.trans_ne (by decide)) with ⟨rfl, h⟩ | ⟨up, rfl, h⟩ | ⟨hdir, h⟩
  · rw [h, hanchor]
    rfl
  · rw [h, anchor_append_slash, anchor_append_slash]
  · rw [h, anchor_append_slash, if_neg hdir]

/-! ## Standing in a directory -/

/-- Whether a path stands directly in a directory, under a name. -/
structure ChildOf (dir name path : String) : Prop where
  parent : ∃ up, parent? path = some up ∧ SamePath up dir
  name : fileName? path = some name

theorem slash_not_mem_of_fileName? (h : fileName? path = some name) : '/' ∉ name.toList := by
  unfold fileName? at h
  split at h
  · rename_i last above hback
    split at h
    · cases h
    · obtain rfl := Option.some.inj h
      have hmem : last ∈ (parts (rest path)).reverse :=
        (List.dropWhile_suffix isIdle).mem (backwards_eq path ▸ hback ▸ List.mem_cons_self)
      exact slash_not_mem_of_mem_parts (List.mem_reverse.1 hmem)
  · cases h

/-- What is joined to a directory stands directly in it exactly when it is one name. -/
theorem childOf_join_iff (dir : String) (hname : isIdle name = false) (hup : name ≠ "..") :
    ChildOf dir name (join dir name) ↔ '/' ∉ name.toList := by
  constructor
  · intro h
    exact slash_not_mem_of_fileName? h.name
  · intro hslash
    have hparts : parts name = [name] := parts_of_not_mem hslash
    have hanchor : anchor name = "" := anchor_of_not_idle hparts hname
    have hnames : names (join dir name) = names dir ++ [name] := by
      rw [names_join dir (hanchor ▸ by decide)]
      simp [names, hparts, hname]
    cases hback : backwards (join dir name) with
    | nil =>
      rw [names_eq_backwards, hback] at hnames
      simp at hnames
    | cons last above =>
      obtain ⟨up, hparent, hanchorUp, hnamesUp⟩ := parent?_of_backwards hback
      obtain ⟨hsame, hlast⟩ := List.append_inj' (hnamesUp.symm.trans hnames) rfl
      obtain rfl : last = name := List.head_eq_of_cons_eq hlast
      refine ⟨⟨up, hparent, hanchorUp.trans (anchor_join dir hanchor), hsame⟩, ?_⟩
      simp [fileName?, hback, hup]

end ServiceSchema.Path
