import TaskQueue.Gateway
import TaskQueue.Proofs.Codec
import Mathlib

/-!
# Where requests go

A request's URL is the gateway's base with the request's segments added, each one
percent-encoded whole, its slashes and percent signs included.  Read as a server reads a
path, split at each `/` and percent-decoded, the path of every request gives back the
base's segments and then exactly the request's own (`request_target_segments`), so two
requests go to one path only when they name the same queue and message.

Two kinds of segment are not added as they are, and the statement leaves them out
(`IsPlainSegment`): `.` and `..` are skipped, and tabs and newlines are dropped from the
others, so a queue named `..` is never addressed and `a⇥b` is addressed as `ab`
(`requests_lose_dots_tabs_and_empty_base_segments`).  The base keeps its segments less a last empty one,
and a base path that is then a single empty segment, as `/` or `//` is, adds none.
-/

namespace TaskQueue

namespace Url

/-! ### Percent-encoding read back -/

/-- The uppercase hexadecimal digits are ASCII, none is `/`, and each reads back as its
value. -/
theorem hexUpper_spec {n : Nat} (h : n < 16) :
  (hexUpper n).toNat < 128 ∧ hexUpper n ≠ '/' ∧
    hexByte? (UInt8.ofNat (hexUpper n).toNat) = some n
  := by
  have key : ∀ n < 16, (hexUpper n).toNat < 128 ∧ hexUpper n ≠ '/' ∧
      hexByte? (UInt8.ofNat (hexUpper n).toNat) = some n := by
    decide
  exact key n h

theorem textBytes_percentByte (b : UInt8) :
  textBytes (percentByte b) =
    [37, UInt8.ofNat (hexUpper (b.toNat / 16)).toNat, UInt8.ofNat (hexUpper (b.toNat % 16)).toNat]
  := by
  have hb := b.toNat_lt
  simp [percentByte, textBytes,
    utf8EncodeChar_of_lt (hexUpper_spec (show b.toNat / 16 < 16 by omega)).1,
    utf8EncodeChar_of_lt (hexUpper_spec (show b.toNat % 16 < 16 by omega)).1]
  rfl

theorem percentDecode_percentByte (b : UInt8) (rest : List UInt8) :
  percentDecode (textBytes (percentByte b) ++ rest) = b :: percentDecode rest
  := by
  have hb := b.toNat_lt
  rw [textBytes_percentByte, List.cons_append, List.cons_append, List.cons_append,
    List.nil_append, percentDecode.eq_2, (hexUpper_spec (show b.toNat / 16 < 16 by omega)).2.2,
    (hexUpper_spec (show b.toNat % 16 < 16 by omega)).2.2]
  simp only [List.cons.injEq, and_true]
  rw [show b.toNat / 16 * 16 + b.toNat % 16 = b.toNat by omega]
  simp

theorem percentDecode_cons_of_ne {b : UInt8} (h : b ≠ 37) (rest : List UInt8) :
  percentDecode (b :: rest) = b :: percentDecode rest
  := percentDecode.eq_3 b rest fun _ _ _ hb _ => h hb

theorem percentDecode_percentBytes (bs rest : List UInt8) :
  percentDecode (textBytes (String.join (bs.map percentByte)) ++ rest) = bs ++ percentDecode rest
  := by
  induction bs with
  | nil => simp [textBytes]
  | cons b bs ih =>
    rw [List.map_cons, String.join_cons, textBytes_append, List.append_assoc,
      percentDecode_percentByte, ih, List.cons_append]

/-- A character a segment keeps as it is is ASCII, and neither `%` nor `/`. -/
theorem plain_of_segmentSet_eq_false {special : Bool} {c : Char}
    (h : segmentSet special c = false) :
  c.toNat < 128 ∧ c ≠ '%' ∧ c ≠ '/'
  := by
  simp only [segmentSet, pathSet, fragmentSet, controlSet, Bool.or_eq_false_iff,
    beq_eq_false_iff_ne, decide_eq_false_iff_not, Bool.and_eq_false_imp] at h
  exact ⟨by omega, h.1.2, h.1.1.2⟩

theorem percentDecode_encodeChar (special : Bool) (c : Char) (rest : List UInt8) :
  percentDecode (textBytes (encodeChar (segmentSet special) c) ++ rest) =
    String.utf8EncodeChar c ++ percentDecode rest
  := by
  unfold encodeChar
  split
  · -- an encoded character is its UTF-8 bytes, each written `%XX`
    rw [percentDecode_percentBytes, utf8, bytes_toList]
    simp [textBytes]
  · -- a character left as it is is one ASCII byte other than `%`
    next hc =>
    obtain ⟨hlt, hpct, -⟩ := plain_of_segmentSet_eq_false (Bool.of_not_eq_true hc)
    have hbyte : UInt8.ofNat c.toNat ≠ 37 := by
      intro h
      have h37 : c.toNat = '%'.toNat := by
        simpa [Nat.mod_eq_of_lt (show c.toNat < 256 by omega)] using congrArg UInt8.toNat h
      exact hpct (Char.toNat_inj.1 h37)
    simp [textBytes, utf8EncodeChar_of_lt hlt, percentDecode_cons_of_ne hbyte]

theorem percentDecode_encodeWith (special : Bool) (cs : List Char) :
  percentDecode (textBytes (encodeWith (segmentSet special) cs)) =
    cs.flatMap String.utf8EncodeChar
  := by
  -- the bytes after the encoded text are decoded on their own
  have key : ∀ rest, percentDecode (textBytes (encodeWith (segmentSet special) cs) ++ rest) =
      cs.flatMap String.utf8EncodeChar ++ percentDecode rest := by
    induction cs with
    | nil => simp [encodeWith, textBytes]
    | cons c cs ih =>
      intro rest
      rw [encodeWith, List.map_cons, String.join_cons, textBytes_append, List.append_assoc,
        percentDecode_encodeChar, ← encodeWith, ih, List.flatMap_cons, List.append_assoc]
  simpa [percentDecode] using key []

/-- A segment as the segment setter writes it: percent-encoded whole. -/
def encodeSegment (special : Bool) (s : String) : String :=
  encodeWith (segmentSet special) s.toList

/-- A segment as a server reads it: percent-decoded, then read as UTF-8. -/
def decodeSegment (s : String) : Option String :=
  String.fromUTF8? ⟨(percentDecode s.toUTF8.toList).toArray⟩

theorem decodeSegment_encodeSegment (special : Bool) (s : String) :
  decodeSegment (encodeSegment special s) = some s
  := by
  rw [decodeSegment, encodeSegment, bytes_toList, percentDecode_encodeWith]
  exact fromUTF8?_textBytes s

theorem encodeSegment_injective (special : Bool) :
  Function.Injective (encodeSegment special)
  := by
  intro s t h
  have hdec := congrArg decodeSegment h
  rwa [decodeSegment_encodeSegment, decodeSegment_encodeSegment, Option.some.injEq] at hdec

theorem slash_not_mem_encodeSegment (special : Bool) (s : String) :
  '/' ∉ (encodeSegment special s).toList
  := by
  simp only [encodeSegment, encodeWith, String.toList_join, List.mem_flatMap, List.mem_map,
    not_exists, not_and]
  rintro _ ⟨c, -, rfl⟩ hc
  unfold encodeChar at hc
  split at hc
  · -- the bytes of an encoded character are written with `%` and hexadecimal digits
    simp only [String.toList_join, List.mem_flatMap, List.mem_map] at hc
    obtain ⟨_, ⟨b, -, rfl⟩, hb⟩ := hc
    have := b.toNat_lt
    simp only [percentByte, String.toList_ofList, List.mem_cons, List.not_mem_nil,
      or_false] at hb
    rcases hb with hb | hb | hb
    · exact absurd hb (by decide)
    · exact (hexUpper_spec (show b.toNat / 16 < 16 by omega)).2.1 hb.symm
    · exact (hexUpper_spec (show b.toNat % 16 < 16 by omega)).2.1 hb.symm
  · next hset =>
    simp only [Char.toString, String.toList_singleton, List.mem_singleton] at hc
    exact (plain_of_segmentSet_eq_false (Bool.of_not_eq_true hset)).2.2 hc.symm

/-! ### Segments of a path -/

/-- The path of a list of segments, each after a `/`. -/
def pathOfSegments (segs : List String) : String :=
  String.join (segs.map ("/" ++ ·))

/-- The segments of a path that starts with `/`: the texts between one `/` and the
next. -/
def pathSegments (path : String) : List String :=
  match path.toList with
  | '/' :: rest => (rest.splitOn '/').map String.ofList
  | _ => []

theorem toList_pathOfSegments (segs : List String) :
  (pathOfSegments segs).toList = segs.flatMap ('/' :: ·.toList)
  := by
  simp [pathOfSegments, String.toList_join, List.flatMap_map]

theorem flatMap_cons_eq_intercalate {α : Type} (c : α) {ls : List (List α)} (h : ls ≠ []) :
  ls.flatMap (c :: ·) = c :: [c].intercalate ls
  := by
  induction ls with
  | nil => exact absurd rfl h
  | cons l ls ih =>
    cases ls with
    | nil => simp
    | cons l' ls' =>
      rw [List.flatMap_cons, ih (List.cons_ne_nil _ _), List.intercalate_cons_cons]
      simp

theorem not_mem_of_mem_splitOn {α : Type} [DecidableEq α] (x : α) (xs : List α) :
  ∀ l ∈ xs.splitOn x, x ∉ l
  := by
  induction xs with
  | nil => simp
  | cons y ys ih =>
    intro l hl
    rw [List.splitOn, List.splitOnP_cons_eq_if_modifyHead] at hl
    split at hl
    · -- `y` is the separator and starts a new piece
      simp only [List.mem_cons] at hl
      rcases hl with rfl | hl
      · simp
      · exact ih l hl
    · -- `y` joins the first piece of the rest
      next hy =>
      obtain ⟨l₀, ls, hls⟩ := List.exists_cons_of_ne_nil (List.splitOnP_ne_nil (· == x) ys)
      rw [hls, List.modifyHead_cons, List.mem_cons] at hl
      have hy : y ≠ x := by simpa using hy
      rcases hl with rfl | hl
      · have := ih l₀ (by rw [List.splitOn, hls]; simp)
        simp [this, Ne.symm hy]
      · exact ih l (by rw [List.splitOn, hls]; simp [hl])

theorem pathSegments_pathOfSegments {segs : List String} (h : ∀ s ∈ segs, '/' ∉ s.toList) :
  pathSegments (pathOfSegments segs) = segs
  := by
  cases segs with
  | nil => rfl
  | cons s segs =>
    have hmap : (s :: segs).flatMap ('/' :: ·.toList) =
        '/' :: ['/'].intercalate ((s :: segs).map String.toList) := by
      rw [← flatMap_cons_eq_intercalate '/' (by simp), List.flatMap_map]
    rw [pathSegments, toList_pathOfSegments, hmap]
    simp only
    rw [List.splitOn_intercalate '/' (by simpa using h) (by simp), List.map_map]
    simp

theorem pathOfSegments_pathSegments {path : String}
    (h : path.toList = [] ∨ path.toList.head? = some '/') :
  pathOfSegments (pathSegments path) = path
  := by
  apply String.toList_inj.1
  rcases h with h | h
  · simp [pathSegments, h, toList_pathOfSegments]
  · obtain ⟨rest, hrest⟩ : ∃ rest, path.toList = '/' :: rest := by
      cases hp : path.toList with
      | nil => simp [hp] at h
      | cons c rest => simp [hp] at h; exact ⟨rest, by rw [h]⟩
    rw [toList_pathOfSegments, pathSegments, hrest]
    simp only
    rw [List.flatMap_map]
    simp only [String.toList_ofList]
    rw [flatMap_cons_eq_intercalate '/' (List.splitOn_ne_nil _ _), List.intercalate_splitOn]

theorem slash_not_mem_of_mem_pathSegments {path s : String} (h : s ∈ pathSegments path) :
  '/' ∉ s.toList
  := by
  unfold pathSegments at h
  split at h
  · obtain ⟨l, hl, rfl⟩ := List.mem_map.1 h
    simpa using not_mem_of_mem_splitOn '/' _ l hl
  · simp at h

theorem pathOfSegments_toList_cases (segs : List String) :
  (pathOfSegments segs).toList = [] ∨ (pathOfSegments segs).toList.head? = some '/'
  := by
  cases segs <;> simp [toList_pathOfSegments]

theorem length_pathOfSegments_eq_one {segs : List String} :
  (pathOfSegments segs).length = 1 ↔ segs = [""]
  := by
  rw [← String.length_toList, toList_pathOfSegments]
  cases segs with
  | nil => simp
  | cons s segs =>
    cases segs with
    | nil => simp
    | cons t segs => simp

theorem endsWith_slash_iff (s : String) :
  s.endsWith "/" = true ↔ s.toList.getLast? = some '/'
  := by
  simp [← String.endsWith_toSlice, List.singleton_suffix_iff_getLast?_eq_some]

/-- A path less its trailing `/` is the path less its last segment, when that segment is
empty and not the only one. -/
theorem dropTrailingSlash_pathOfSegments {segs : List String}
    (h : ∀ s ∈ segs, '/' ∉ s.toList) :
  dropTrailingSlash (pathOfSegments segs) =
    pathOfSegments (if segs.getLast? = some "" ∧ segs ≠ [""] then segs.dropLast else segs)
  := by
  rcases segs.eq_nil_or_concat with rfl | ⟨init, last, rfl⟩
  · rfl
  · have hlast : '/' ∉ last.toList := h last (by simp)
    unfold dropTrailingSlash
    by_cases he : last = ""
    · subst he
      by_cases hi : init = []
      · subst hi
        simp [length_pathOfSegments_eq_one.2 rfl]
      · have hlen : 1 < (pathOfSegments (init ++ [""])).length := by
          rw [← String.length_toList, toList_pathOfSegments]
          obtain ⟨a, l, rfl⟩ := List.exists_cons_of_ne_nil hi
          simp
        have hend : (pathOfSegments (init ++ [""])).endsWith "/" = true := by
          simp [endsWith_slash_iff, toList_pathOfSegments]
        rw [if_pos (by simp [hlen, hend]), if_pos ⟨by simp, by simpa using hi⟩]
        apply String.toList_inj.1
        simp [toList_pathOfSegments, List.dropLast_eq_take]
    · -- the path ends with the last character of a segment, which is no `/`
      have hend : (pathOfSegments (init ++ [last])).endsWith "/" = false := by
        have hne : last.toList ≠ [] := by simpa using he
        rw [Bool.eq_false_iff, ne_eq, endsWith_slash_iff, toList_pathOfSegments]
        intro hl
        rw [List.flatMap_append, List.flatMap_singleton,
          List.getLast?_append_of_ne_nil _ (by simp), List.getLast?_cons,
          List.getLast?_eq_some_getLast hne] at hl
        simp only [Option.getD_some, Option.some.injEq] at hl
        exact hlast (hl ▸ List.getLast_mem hne)
      rw [if_neg (by simp [hend]), if_neg (by simp [he])]

/-! ### Adding segments -/

/-- A segment that the segment setter adds as it is: neither `.` nor `..`, and without
tabs and newlines. -/
def IsPlainSegment (s : String) : Prop :=
  s ≠ "." ∧ s ≠ ".." ∧ ∀ c ∈ s.toList, c ≠ '\t' ∧ c ≠ '\n' ∧ c ≠ '\r'

instance (s : String) : Decidable (IsPlainSegment s) :=
  inferInstanceAs (Decidable (_ ∧ _ ∧ _))

/-- A plain segment goes after the segments of the path, in place of the empty one of a
path that is only `/`. -/
theorem pushSegment_of_plain (special : Bool) (segs : List String) {s : String}
    (hs : IsPlainSegment s) :
  pushSegment special (pathOfSegments segs) s =
    pathOfSegments ((if segs = [""] then [] else segs) ++ [encodeSegment special s])
  := by
  obtain ⟨hdot, hdots, hchars⟩ := hs
  have hkept : s.toList.filter (fun c => !(c == '\t' || c == '\n' || c == '\r')) = s.toList :=
    List.filter_eq_self.2 fun c hc => by simpa [and_assoc] using hchars c hc
  have hne2 : s.toList ≠ ['.', '.'] := fun h => hdots (String.toList_inj.1 h)
  have hne1 : s.toList ≠ ['.'] := fun h => hdot (String.toList_inj.1 h)
  unfold pushSegment
  rw [if_neg (by simpa using ⟨hdot, hdots⟩), hkept, if_neg (by simpa using hne2),
    if_neg (by simpa using hne1)]
  apply String.toList_inj.1
  by_cases hroot : segs = [""]
  · subst hroot
    simp [length_pathOfSegments_eq_one.2 rfl, toList_pathOfSegments, encodeSegment]
  · have hlen : ¬(pathOfSegments segs).length = 1 :=
      fun h => hroot (length_pathOfSegments_eq_one.1 h)
    simp [hlen, hroot, toList_pathOfSegments, encodeSegment]

theorem foldl_pushSegment (special : Bool) {segs : List String} (hne : segs ≠ [])
    (hroot : segs ≠ [""]) {added : List String} (h : ∀ s ∈ added, IsPlainSegment s) :
  added.foldl (pushSegment special) (pathOfSegments segs) =
    pathOfSegments (segs ++ added.map (encodeSegment special))
  := by
  induction added generalizing segs with
  | nil => simp
  | cons s added ih =>
    -- past a first segment, a path is never only `/` again
    have hroot' : segs ++ [encodeSegment special s] ≠ [""] := by
      cases segs with
      | nil => exact absurd rfl hne
      | cons a l => simp
    rw [List.foldl_cons, pushSegment_of_plain special segs (h s List.mem_cons_self),
      if_neg hroot, ih (by simp) hroot' fun t ht => h t (List.mem_cons_of_mem _ ht)]
    simp

/-- The segments of a base path that added segments go after: all of them less a last
empty one, and none when that leaves a single empty one. -/
def baseSegments (path : String) : List String :=
  let segs := pathSegments path
  let segs := if segs.getLast? = some "" then segs.dropLast else segs
  if segs = [""] then [] else segs

/-- Plain segments, the first of them not empty, added to a path of segments: the path
then has the base's segments and the added ones, each encoded. -/
theorem pathSegments_addSegments {u : Url} (hpath : ∃ segs, u.path = pathOfSegments segs)
    {s : String} {rest : List String} (hs : s ≠ "")
    (h : ∀ t ∈ s :: rest, IsPlainSegment t) :
  pathSegments (u.addSegments (s :: rest)).path =
    baseSegments u.path ++ (s :: rest).map (encodeSegment (isSpecial u.scheme))
  := by
  obtain ⟨segs₀, hsegs₀⟩ := hpath
  -- the base path read as segments, none with a `/` in it
  set base := pathSegments u.path with hbase
  have hfree : ∀ t ∈ base, '/' ∉ t.toList := fun t ht => slash_not_mem_of_mem_pathSegments ht
  have hu : u.path = pathOfSegments base :=
    (pathOfSegments_pathSegments (hsegs₀ ▸ pathOfSegments_toList_cases segs₀)).symm
  set kept := if base.getLast? = some "" ∧ base ≠ [""] then base.dropLast else base with hkept
  have hkept_sub : ∀ t ∈ kept, t ∈ base := by
    intro t ht
    rw [hkept] at ht
    split_ifs at ht
    · exact List.dropLast_subset _ ht
    · exact ht
  have hbase_eq : baseSegments u.path = if kept = [""] then [] else kept := by
    unfold baseSegments
    rw [← hbase, hkept]
    by_cases h1 : base = [""]
    · simp [h1]
    · by_cases h2 : base.getLast? = some "" <;> simp [h1, h2]
  have henc : encodeSegment (isSpecial u.scheme) s ≠ "" := by
    intro he
    exact hs (encodeSegment_injective (isSpecial u.scheme) (he.trans rfl))
  have hpath' : (u.addSegments (s :: rest)).path =
      pathOfSegments (baseSegments u.path ++
        (s :: rest).map (encodeSegment (isSpecial u.scheme))) := by
    rw [hbase_eq]
    change (s :: rest).foldl _ (dropTrailingSlash u.path) = _
    rw [hu, dropTrailingSlash_pathOfSegments hfree, ← hkept, List.foldl_cons,
      pushSegment_of_plain _ _ (h s List.mem_cons_self),
      foldl_pushSegment _ (by simp) (fun he => henc (by simpa using congrArg List.getLast? he))
        fun t ht => h t (List.mem_cons_of_mem _ ht)]
    simp
  rw [hpath']
  apply pathSegments_pathOfSegments
  intro t ht
  rcases List.mem_append.1 ht with ht | ht
  · rw [hbase_eq] at ht
    split_ifs at ht
    · simp at ht
    · exact hfree t (hkept_sub t ht)
  · obtain ⟨t', -, rfl⟩ := List.mem_map.1 ht
    exact slash_not_mem_encodeSegment _ t'

/-! ### URLs that can be a base -/

theorem readAuthority_path {scheme : String} {cs : List Char} {u : Url}
    (h : readAuthority scheme cs = .ok u) :
  ∃ segs, u.path = pathOfSegments segs
  := by
  unfold readAuthority at h
  simp only [bind, Except.bind, pure, Except.pure] at h
  -- each branch throws or ends with the path that `readRest` gives
  repeat' split at h
  all_goals cases h
  all_goals exact ⟨_, rfl⟩

theorem readFile_path {cs : List Char} {u : Url} (h : readFile cs = .ok u) :
  ∃ segs, u.path = pathOfSegments segs
  := by
  unfold readFile at h
  simp only [bind, Except.bind, pure, Except.pure] at h
  repeat' split at h
  all_goals cases h
  all_goals exact ⟨_, rfl⟩

/-- An encoded text starts with `/` only when the text does. -/
theorem head?_encodeWith {inSet : Char → Bool} {cs : List Char}
    (h : (encodeWith inSet cs).toList.head? = some '/') :
  cs.head? = some '/'
  := by
  cases cs with
  | nil => simp [encodeWith] at h
  | cons c cs =>
    simp only [encodeWith, List.map_cons, String.join_cons, String.toList_append] at h
    unfold encodeChar at h
    split at h
    · -- an encoded character starts with `%`
      have hbytes : utf8 c ≠ [] := by
        rw [utf8, bytes_toList, textBytes, Char.toString, String.toList_singleton,
          List.flatMap_singleton]
        exact String.utf8EncodeChar_ne_nil
      obtain ⟨b, bs, hb⟩ := List.exists_cons_of_ne_nil hbytes
      simp [hb, percentByte] at h
    · simpa using h

/-- A URL that can be a base has a path of segments. -/
theorem parse_path {input : String} {u : Url} (h : parse input = .ok u)
    (hb : u.canBeBase = true) :
  ∃ segs, u.path = pathOfSegments segs
  := by
  unfold parse at h
  simp only [bind, Except.bind, pure, Except.pure] at h
  split at h
  · cases h
  · next v _ =>
    obtain ⟨scheme, rest⟩ := v
    split at h
    · exact readFile_path h
    · split at h
      · exact readAuthority_path h
      · split at h
        · exact readAuthority_path h
        · cases h
          exact ⟨_, rfl⟩
        · -- an opaque path does not start with `/`, so the URL is no base
          next hnot₂ hnot₁ =>
          cases h
          have hslash : (readOpaque rest).1.toList.head? = some '/' := by
            simpa [canBeBase, String.startsWith_string_iff,
              List.singleton_prefix_iff_head?_eq_some] using hb
          simp only [readOpaque, List.span_eq_takeWhile_dropWhile] at hslash
          have hhead := head?_encodeWith hslash
          cases rest with
          | nil => simp at hhead
          | cons c tail =>
            have hc : c = '/' := by
              simp only [List.takeWhile_cons] at hhead
              split at hhead <;> simp_all
            exact (hnot₁ tail (by rw [hc])).elim

end Url

/-! ### Request targets -/

namespace Gateway

theorem connect_eq_ok {endpoint : String} {token : Option String} {g : Gateway}
    (h : connect endpoint token = .ok g) :
  Url.parse endpoint = .ok g.base ∧ g.base.canBeBase = true
  := by
  unfold connect at h
  split at h
  · cases h
  · next u hu =>
    split at h
    · cases h
      exact ⟨hu, ‹_›⟩
    · cases h

/-- The query and the credentials leave the path as the segments make it. -/
theorem url_path (g : Gateway) (segments : List String) (query : List (String × String)) :
  (g.url segments query).path = (g.base.addSegments segments).path
  := by
  unfold url
  dsimp only
  split_ifs <;> rfl

theorem Request.segments_eq_queues_cons (r : Request) :
  ∃ tail, r.segments = "queues" :: tail
  := by
  cases r <;> exact ⟨_, rfl⟩

/-- The path of a request, read as segments, is the base's segments and then the
request's own, encoded. -/
theorem pathSegments_url {endpoint : String} {token : Option String} {g : Gateway}
    (hg : connect endpoint token = .ok g) {r : Request}
    (hplain : ∀ s ∈ r.segments, Url.IsPlainSegment s) :
  Url.pathSegments (g.url r.segments r.query).path =
    Url.baseSegments g.base.path ++ r.segments.map (Url.encodeSegment (Url.isSpecial g.base.scheme))
  := by
  obtain ⟨hparse, hbase⟩ := connect_eq_ok hg
  obtain ⟨tail, htail⟩ := r.segments_eq_queues_cons
  rw [url_path, htail]
  exact Url.pathSegments_addSegments (Url.parse_path hparse hbase) (by decide) (htail ▸ hplain)

end Gateway

/-- Requests reach exactly what they name: for a gateway built from any endpoint, and a
request whose queue name and message id are neither `.` nor `..` and hold no tab or
newline, the request's path read as segments is the base's segments (less a last empty
one) and then `queues`, the name and the rest of the request's segments, each
percent-encoded; decoding the segments after the base gives back the request's own; so
two such requests go to one path exactly when they have the same segments. -/
theorem request_target_segments {endpoint : String} {token : Option String} {g : Gateway}
    (hg : Gateway.connect endpoint token = .ok g) (r : Gateway.Request)
    (hplain : ∀ s ∈ r.segments, Url.IsPlainSegment s) :
  Url.pathSegments (g.url r.segments r.query).path =
      Url.baseSegments g.base.path ++
        r.segments.map (Url.encodeSegment (Url.isSpecial g.base.scheme)) ∧
    ((Url.pathSegments (g.url r.segments r.query).path).drop
        (Url.baseSegments g.base.path).length).map Url.decodeSegment = r.segments.map some ∧
    ∀ r' : Gateway.Request, (∀ s ∈ r'.segments, Url.IsPlainSegment s) →
      ((g.url r.segments r.query).path = (g.url r'.segments r'.query).path ↔
        r.segments = r'.segments)
  := by
  refine ⟨Gateway.pathSegments_url hg hplain, ?_, ?_⟩
  · rw [Gateway.pathSegments_url hg hplain, List.drop_left, List.map_map]
    exact List.map_congr_left fun s _ => Url.decodeSegment_encodeSegment _ s
  · intro r' hplain'
    constructor
    · intro heq
      have hsegs := Gateway.pathSegments_url hg hplain
      rw [heq, Gateway.pathSegments_url hg hplain'] at hsegs
      exact (List.map_injective_iff.2 (Url.encodeSegment_injective _))
        (List.append_cancel_left hsegs).symm
    · intro heq
      rw [Gateway.url_path, Gateway.url_path, heq]

/-- A client of the gateway at `x://h/` sends a delete of the message with the empty id in
the queue `...` to the segments `queues`, `...`, `messages` and the empty one. -/
theorem delete_message_target_segments :
  Gateway.connect "x://h/" none = .ok ⟨⟨"x", some ⟨"", "", "h", none⟩, "/", none, none⟩, none⟩ ∧
    (∀ s ∈ (Gateway.Request.deleteMessage "..." "" "r").segments, Url.IsPlainSegment s) ∧
    Url.pathSegments ((⟨⟨"x", some ⟨"", "", "h", none⟩, "/", none, none⟩, none⟩ : Gateway).url
        (Gateway.Request.deleteMessage "..." "" "r").segments
        (Gateway.Request.deleteMessage "..." "" "r").query).path =
      ["queues", "...", "messages", ""]
  := by
  have hg : Gateway.connect "x://h/" none =
      .ok ⟨⟨"x", some ⟨"", "", "h", none⟩, "/", none, none⟩, none⟩ := by
    decide +kernel
  have hplain : ∀ s ∈ (Gateway.Request.deleteMessage "..." "" "r").segments,
      Url.IsPlainSegment s := by
    simp [Url.IsPlainSegment, Gateway.Request.segments]
  exact ⟨hg, hplain, (request_target_segments hg _ hplain).1.trans (by decide +kernel)⟩

/-- Three ways a request misses what it names.  A queue named `..` is never addressed: a
request on it goes to the path of the segments around it.  A tab in a queue name is
dropped, so `a⇥b` is addressed as `ab`.  And on a base with the path `//`, the requests
go under `/`, not `//`. -/
theorem requests_lose_dots_tabs_and_empty_base_segments :
  ((⟨⟨"x", some ⟨"", "", "h", none⟩, "/", none, none⟩, none⟩ : Gateway).url
      (Gateway.Request.getMetadata "..").segments []).path = "/queues/metadata" ∧
    ((⟨⟨"x", some ⟨"", "", "h", none⟩, "/", none, none⟩, none⟩ : Gateway).url
      (Gateway.Request.getMetadata "a\tb").segments []).path =
    ((⟨⟨"x", some ⟨"", "", "h", none⟩, "/", none, none⟩, none⟩ : Gateway).url
      (Gateway.Request.getMetadata "ab").segments []).path ∧
    ((⟨⟨"x", some ⟨"", "", "h", none⟩, "//", none, none⟩, none⟩ : Gateway).url
      (Gateway.Request.getMetadata "q").segments []).path = "/queues/q/metadata"
  := by
  decide +kernel

end TaskQueue
