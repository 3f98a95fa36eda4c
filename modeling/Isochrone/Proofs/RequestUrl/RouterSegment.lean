import Isochrone.Proofs.RequestUrl.ReadingBack
import Mathlib.Data.List.Flatten
import Mathlib.Data.List.TakeWhile

/-!
# The router in the path

A URL reference has a path up to the first question mark or hash, and a query from a question
mark there to the first hash behind it. The URL of a query names its router in one segment of
the path, and has all its pairs in the query, just where the name can stand in a path as it is:
it is written there without any encoding.
-/

namespace Isochrone

open Text (hasEscape percentDecode pieces utf8)

/-- The path and the query of a URL reference. -/
structure Reference where
  path : List Char
  query : Option (List Char)
  deriving DecidableEq, Repr

namespace Reference

/-- Whether a character does not end the path of a reference. -/
def inPath (c : Char) : Bool := c ≠ '?' && c ≠ '#'

/-- A text as a URL reference. -/
def ofText (cs : List Char) : Reference where
  path := cs.takeWhile inPath
  query := match cs.dropWhile inPath with
    | '?' :: rest => some (rest.takeWhile (· ≠ '#'))
    | _ => none

/-- A path ends at a question mark, and the query of a text without hash reaches to its end. -/
theorem ofText_append_query {path query : List Char} (h : ∀ c ∈ path, inPath c = true)
    (hhash : '#' ∉ query) : ofText (path ++ '?' :: query) = ⟨path, some query⟩ := by
  have hpath : (path ++ '?' :: query).takeWhile inPath = path := by
    rw [List.takeWhile_append_of_pos h, List.takeWhile_cons_of_neg (by decide), List.append_nil]
  have hrest : (path ++ '?' :: query).dropWhile inPath = '?' :: query := by
    rw [List.dropWhile_append_of_pos h, List.dropWhile_cons_of_neg (by decide)]
  have hquery : query.takeWhile (· ≠ '#') = query := by
    rw [List.takeWhile_eq_self_iff]
    intro c hc
    exact decide_eq_true fun he => hhash (he ▸ hc)
  rw [ofText, hpath, hrest]
  simp only [hquery]

end Reference

namespace RequestUrl

variable {p : QueryParameters} {c : Cutoffs} {segment : List Char}

/-- The URL of a query as a reference. -/
def reference (p : QueryParameters) (c : Cutoffs) : Reference :=
  .ofText (build p c).toString.toList

/-- The URL of a query names its router in a segment of the path, and all its pairs stand in
the query. -/
structure NamesRouter (p : QueryParameters) (c : Cutoffs) (segment : List Char) : Prop where
  /-- The path is `/otp/routers/{segment}/isochrone`. -/
  path : pieces '/' (reference p c).path =
    [[], "otp".toList, "routers".toList, segment, "isochrone".toList]
  ne_nil : segment ≠ []
  /-- The segment does not stand for the place itself or the one above. -/
  ne_dot : segment ≠ ['.']
  ne_dots : segment ≠ ['.', '.']
  decoded : String.fromUTF8? (percentDecode segment).toByteArray = some p.router
  query : (reference p c).query = some (queryOf p c)

/-- A name that can stand in a path as it is. -/
structure FitsPath (name : List Char) : Prop where
  slash : '/' ∉ name
  question : '?' ∉ name
  hash : '#' ∉ name
  escape : hasEscape name = false
  ne_dot : name ≠ ['.']
  ne_dots : name ≠ ['.', '.']

/-- What stands behind the router in the URL of a query. -/
def behindRouter (p : QueryParameters) (c : Cutoffs) : List Char :=
  '/' :: ("isochrone".toList ++ '?' :: queryOf p c)

theorem toList_build_router (p : QueryParameters) (c : Cutoffs) :
    (build p c).toString.toList =
      "/otp/routers/".toList ++ (p.router.toList ++ behindRouter p c) := by
  rw [toList_build, pathOf, behindRouter]
  simp only [String.toList_append, List.append_assoc]
  rfl

/-- The router begins behind the third piece of the path. -/
theorem pieces_path (p : QueryParameters) (c : Cutoffs) :
    pieces '/' (reference p c).path = [] :: "otp".toList :: "routers".toList ::
      pieces '/' ((p.router.toList ++ behindRouter p c).takeWhile Reference.inPath) := by
  have hfront : ∀ x ∈ "/otp/routers/".toList, Reference.inPath x = true :=
    List.all_eq_true.mp (by decide)
  rw [reference, toList_build_router, Reference.ofText, List.takeWhile_append_of_pos hfront]
  rfl

/-- A router that does not end the path is followed by the last segment. -/
theorem path_of_inPath (h : ∀ x ∈ p.router.toList, Reference.inPath x = true) (c : Cutoffs) :
    (p.router.toList ++ behindRouter p c).takeWhile Reference.inPath =
      p.router.toList ++ '/' :: "isochrone".toList := by
  have hback : ∀ x ∈ '/' :: "isochrone".toList, Reference.inPath x = true :=
    List.all_eq_true.mp (by decide)
  rw [List.takeWhile_append_of_pos h, behindRouter, ← List.cons_append,
    List.takeWhile_append_of_pos hback, List.takeWhile_cons_of_neg (by decide), List.append_nil]

/-- What a segment decodes to is as long as the router that it names. -/
theorem NamesRouter.length_percentDecode (h : NamesRouter p c segment) :
    (percentDecode segment).length = (utf8 p.router.toList).length := by
  have hbytes : (percentDecode segment).toByteArray = p.router.toByteArray :=
    Form.eq_toByteArray_of_fromUTF8? h.decoded
  have hrouter : (utf8 p.router.toList).toByteArray = p.router.toByteArray :=
    String.utf8Encode_toList
  have hsize := congrArg ByteArray.size (hbytes.trans hrouter.symm)
  simpa only [List.size_toByteArray] using hsize

/-- A name that makes a single piece before the last one holds no slash. -/
theorem slash_not_mem_of_pieces {name : List Char}
    (h : pieces '/' (name ++ '/' :: "isochrone".toList) = [segment, "isochrone".toList]) :
    '/' ∉ name := by
  have hlength := Text.length_pieces '/' (name ++ '/' :: "isochrone".toList)
  have hback : ('/' :: "isochrone".toList).count '/' = 1 := by decide
  rw [h, List.count_append, hback] at hlength
  apply List.count_eq_zero.mp
  simp only [List.length_cons, List.length_nil] at hlength
  omega

/-- Where the path ends inside a name, no piece is long enough to be read as the whole name. -/
theorem length_utf8_lt_of_not_inPath {name behind : List Char}
    (h : ¬ ∀ x ∈ name, Reference.inPath x = true)
    (hmem : segment ∈ pieces '/' ((name ++ behind).takeWhile Reference.inPath)) :
    (utf8 segment).length < (utf8 name).length := by
  have hstop : (name.takeWhile Reference.inPath).length ≠ name.length := by
    intro hlength
    have hall : name.takeWhile Reference.inPath = name :=
      (List.takeWhile_sublist _).eq_of_length hlength
    exact h (List.takeWhile_eq_self_iff.mp hall)
  rw [List.takeWhile_append, if_neg hstop] at hmem
  have hpart : (utf8 segment).length ≤ (utf8 (name.takeWhile Reference.inPath)).length :=
    ((Text.sublist_of_mem_pieces hmem).flatMap _).length_le
  cases hrest : name.dropWhile Reference.inPath with
  | nil => exact absurd (List.dropWhile_eq_nil_iff.mp hrest) h
  | cons x rest =>
    have hname : utf8 name = utf8 (name.takeWhile Reference.inPath) ++ utf8 (x :: rest) := by
      rw [utf8, utf8, utf8, ← List.flatMap_append, ← hrest, List.takeWhile_append_dropWhile]
    have hmark := Text.length_utf8_lt_cons x rest
    rw [hname, List.length_append]
    omega

/-- A router that is named in a segment of the path can stand in a path as it is. -/
theorem NamesRouter.fitsPath (h : NamesRouter p c segment) : FitsPath p.router.toList := by
  have hlength := h.length_percentDecode
  have hpieces : pieces '/' ((p.router.toList ++ behindRouter p c).takeWhile Reference.inPath) =
      [segment, "isochrone".toList] := by
    have hpath := h.path
    rw [pieces_path] at hpath
    simpa using hpath
  by_cases hin : ∀ x ∈ p.router.toList, Reference.inPath x = true
  · rw [path_of_inPath hin] at hpieces
    have hslash := slash_not_mem_of_pieces hpieces
    rw [Text.pieces_append_cons hslash] at hpieces
    have hsegment : p.router.toList = segment := (List.cons.inj hpieces).1
    refine ⟨hslash, fun hmem => ?_, fun hmem => ?_, ?_, ?_, ?_⟩
    · exact absurd (hin _ hmem) (by decide)
    · exact absurd (hin _ hmem) (by decide)
    · rw [← Text.length_percentDecode_eq_iff, hsegment, hlength, hsegment]
    · rw [hsegment]
      exact h.ne_dot
    · rw [hsegment]
      exact h.ne_dots
  · have hmem : segment ∈
        pieces '/' ((p.router.toList ++ behindRouter p c).takeWhile Reference.inPath) := by
      rw [hpieces]
      exact List.mem_cons_self
    have hshort := length_utf8_lt_of_not_inPath hin hmem
    have hread := Text.length_percentDecode_le segment
    omega

theorem FitsPath.inPath {name : List Char} (h : FitsPath name) :
    ∀ x ∈ name, Reference.inPath x = true := by
  intro x hx
  have hquestion : x ≠ '?' := fun he => h.question (he ▸ hx)
  have hhash : x ≠ '#' := fun he => h.hash (he ▸ hx)
  simp [Reference.inPath, hquestion, hhash]

/-- The query of a URL whose path does not end early holds all pairs. -/
theorem query_of_inPath (h : ∀ x ∈ p.router.toList, Reference.inPath x = true) (c : Cutoffs) :
    (reference p c).query = some (queryOf p c) := by
  have hpath : ∀ x ∈ pathOf p, Reference.inPath x = true := by
    have hfront : ∀ x ∈ "/otp/routers/".toList, Reference.inPath x = true :=
      List.all_eq_true.mp (by decide)
    have hback : ∀ x ∈ "/isochrone".toList, Reference.inPath x = true :=
      List.all_eq_true.mp (by decide)
    intro x hx
    rw [pathOf, String.toList_append, String.toList_append, List.append_assoc] at hx
    rcases List.mem_append.mp hx with hx | hx
    · exact hfront x hx
    · rcases List.mem_append.mp hx with hx | hx
      · exact h x hx
      · exact hback x hx
  have hhash : '#' ∉ queryOf p c := not_mem_queryOf (by decide) (by decide) (by decide) p c
  rw [reference, toList_build, Reference.ofText_append_query hpath hhash]

/-- A router that can stand in a path as it is makes a segment of it. -/
theorem FitsPath.namesRouter (h : FitsPath p.router.toList) (c : Cutoffs) :
    NamesRouter p c p.router.toList where
  path := by
    rw [pieces_path, path_of_inPath h.inPath, Text.pieces_append_cons h.slash]
    rfl
  ne_nil hnil := p.router_ne_empty (String.toList_eq_nil_iff.mp hnil)
  ne_dot := h.ne_dot
  ne_dots := h.ne_dots
  decoded := by
    have hbytes : (utf8 p.router.toList).toByteArray = p.router.toByteArray :=
      String.utf8Encode_toList
    rw [Text.percentDecode_of_not_hasEscape h.escape, hbytes, Form.fromUTF8?_toByteArray]
  query := query_of_inPath h.inPath c

/-- Whatever the other parameters and the cutoffs are, the URL of a query names the router in
one segment of its path, and has the whole of the encoded pairs in its query, exactly when the
router is written without slash, question mark, hash and encoded bytes and is neither `.` nor
`..`. -/
theorem names_router_iff (p : QueryParameters) (c : Cutoffs) :
    (∃ segment, NamesRouter p c segment) ↔ FitsPath p.router.toList := by
  constructor
  · rintro ⟨segment, h⟩
    exact h.fitsPath
  · intro h
    exact ⟨p.router.toList, h.namesRouter c⟩

/-- The slash of a router parts it into two segments. -/
theorem slash_parts_router :
    ¬ ∃ segment, NamesRouter (QueryParameters.empty.withRouter "a/b") ⟨[300]⟩ segment := by
  rintro ⟨segment, h⟩
  exact h.fitsPath.slash (by decide)

end RequestUrl

end Isochrone
