import AppServer.Http.Uri
import AppServer.Proofs.Text.Cut

/-!
# The slash behind a context path

A request for a context path with one slash behind it becomes one for the context
path; every other request stays as it is. The URI is taken apart for it and made
again of the parts, two steps that can fail for texts and parts in general. Here
neither fails: the new text holds characters of the old path and query only, and the
scheme and the authority are those that were there.
-/

namespace AppServer.Http

/-! ### Texts of paths and queries -/

theorem ne_hash_of_isPathChar {c : Char} (h : isPathChar c = true) : c ≠ '#' := by
  rintro rfl
  exact absurd h (by decide)

theorem ne_hash_of_isQueryChar {c : Char} (h : isQueryChar c = true) : c ≠ '#' := by
  rintro rfl
  exact absurd h (by decide)

theorem not_mem_of_isPathChar {cs : List Char} (h : cs.all isPathChar = true) : '?' ∉ cs := fun hmem =>
  absurd (List.all_eq_true.mp h '?' hmem) (by decide)

theorem PathAndQuery.ofText?_text {p : PathAndQuery} (hpath : p.path.toList.all isPathChar = true)
    (hquery : p.query.all (fun query => query.toList.all isQueryChar) = true) :
    PathAndQuery.ofText? p.text = some p := by
  obtain ⟨path, query⟩ := p
  dsimp only at hpath hquery
  have hmark := not_mem_of_isPathChar hpath
  have hplain : ∀ c ∈ path.toList, decide (c ≠ '#') = true := fun c hc =>
    decide_eq_true (ne_hash_of_isPathChar (List.all_eq_true.mp hpath c hc))
  cases query with
  | none =>
    have hkept : path.toList.takeWhile (· ≠ '#') = path.toList := List.takeWhile_eq_self_iff.mpr hplain
    simp only [ofText?, text, hkept, Text.cutFirst_eq_none_iff.mpr hmark, if_pos hpath, String.ofList_toList]
  | some query =>
    rw [Option.all_some] at hquery
    have hkept : (path ++ "?" ++ query).toList.takeWhile (· ≠ '#') = path.toList ++ '?' :: query.toList := by
      have htext : (path ++ "?" ++ query).toList = path.toList ++ '?' :: query.toList := by
        rw [String.toList_append, String.toList_append, List.append_assoc]
        rfl
      rw [htext]
      refine List.takeWhile_eq_self_iff.mpr fun c hc => ?_
      rcases List.mem_append.mp hc with hc | hc
      · exact hplain c hc
      · rcases List.mem_cons.mp hc with rfl | hc
        · decide
        · exact decide_eq_true (ne_hash_of_isQueryChar (List.all_eq_true.mp hquery c hc))
    simp only [ofText?, text, hkept, Text.cutFirst_append hmark, hpath, hquery, Bool.and_self, if_true,
      String.ofList_toList]

/-! ### The root -/

theorem isContextRoot_iff {contextPath path : String} :
    isContextRoot contextPath path = true ↔ contextPath ≠ "" ∧ path = contextPath ++ "/" := by
  rw [isContextRoot, Bool.and_eq_true, Bool.and_eq_true, Bool.and_eq_true, decide_eq_true_eq, decide_eq_true_eq,
    decide_eq_true_eq, List.isPrefixOf_iff_prefix, and_assoc, and_assoc]
  refine and_congr_right fun _ => ⟨?_, ?_⟩
  · rintro ⟨hsize, ⟨rest, hrest⟩, hlast⟩
    have hpath : path = contextPath ++ String.ofList rest := by
      rw [← String.toList_inj, String.toList_append, String.toList_ofList, hrest]
    rw [hpath, String.utf8ByteSize_append] at hsize
    have hne : rest ≠ [] := by
      rintro rfl
      rw [String.ofList_nil, String.utf8ByteSize_empty] at hsize
      omega
    -- what is left behind the context path has one byte and ends in a slash, so it is the slash
    obtain ⟨before, c, rfl⟩ : ∃ before c, rest = before ++ [c] :=
      ⟨rest.dropLast, rest.getLast hne, (List.dropLast_concat_getLast hne).symm⟩
    rw [← hrest, ← List.append_assoc, List.getLast?_concat] at hlast
    cases hlast
    have hbefore : (String.ofList before).utf8ByteSize = 0 := by
      rw [String.ofList_append, String.utf8ByteSize_append] at hsize
      have hone : (String.ofList ['/']).utf8ByteSize = 1 := rfl
      omega
    rw [hpath, String.ofList_append, String.utf8ByteSize_eq_zero_iff.mp hbefore, String.empty_append]
  · rintro rfl
    have htext : (contextPath ++ "/").toList = contextPath.toList ++ ['/'] := String.toList_append
    refine ⟨?_, ⟨['/'], htext.symm⟩, ?_⟩
    · rw [String.utf8ByteSize_append]
      rfl
    · rw [htext]
      exact List.getLast?_concat

theorem all_isPathChar_of_slash {contextPath : String}
    (h : (contextPath ++ "/").toList.all isPathChar = true) : contextPath.toList.all isPathChar = true := by
  rw [String.toList_append, List.all_append, Bool.and_eq_true] at h
  exact h.1

/-- A URI with a path is made again of its parts with another path in place of its own. -/
theorem Target.IsUri.ofParts? {target : Target} (h : target.IsUri) (hpath : target.path ≠ "") {path : String}
    (hnew : path ≠ "") :
    Target.ofParts? ⟨target.parts.scheme, target.parts.authority, some ⟨path, target.query⟩⟩ =
      some { target with path } := by
  obtain ⟨origin, own, query⟩ := target
  rcases origin with _ | ⟨_ | scheme, authority⟩
  · simp only [Target.ofParts?, parts, Option.bind_none, Option.map_none, Option.elim_some, if_neg hnew,
      Option.bind_some]
  · exact absurd ((h.form _ rfl).mp rfl) hpath
  · simp only [Target.ofParts?, parts, Option.bind_some, Option.map_some, Option.elim_some, if_neg hnew]

theorem Target.withContextRoot_of_root {target : Target} {contextPath : String} (h : target.IsUri)
    (hne : contextPath ≠ "") (hroot : target.path = contextPath ++ "/") :
    PathAndQuery.ofText? (PathAndQuery.text ⟨contextPath, target.query⟩) = some ⟨contextPath, target.query⟩ ∧
      Target.ofParts? ⟨target.parts.scheme, target.parts.authority, some ⟨contextPath, target.query⟩⟩ =
        some { target with path := contextPath } ∧
      target.withContextRoot contextPath = { target with path := contextPath } := by
  have hchars : contextPath.toList.all isPathChar = true := all_isPathChar_of_slash (hroot ▸ h.path)
  have hread := @PathAndQuery.ofText?_text ⟨contextPath, target.query⟩ hchars h.query
  have hpath : target.path ≠ "" := by
    rw [hroot]
    exact fun hempty => hne (String.append_eq_empty_iff.mp hempty).1
  have hmade := h.ofParts? hpath hne
  refine ⟨hread, hmade, ?_⟩
  rw [withContextRoot, if_pos ⟨h, isContextRoot_iff.mpr ⟨hne, hroot⟩⟩]
  dsimp only
  rw [hread, hmade, Option.getD_some]

theorem Target.withContextRoot_of_not_root {target : Target} {contextPath : String}
    (h : ¬(contextPath ≠ "" ∧ target.path = contextPath ++ "/")) : target.withContextRoot contextPath = target := by
  rw [withContextRoot, if_neg fun hroot => h (isContextRoot_iff.mp hroot.2)]

theorem Target.withContextRoot_empty (target : Target) : target.withContextRoot "" = target :=
  withContextRoot_of_not_root fun hroot => hroot.1 rfl

/-- The slash is taken off a URI that has the whole context path in front of it, and nothing else is done. -/
theorem Target.withContextRoot_eq (target : Target) (contextPath : String) :
    target.withContextRoot contextPath = if target.IsUri ∧ contextPath ≠ "" ∧ target.path = contextPath ++ "/" then
      { target with path := contextPath } else target := by
  split
  · next h => exact (withContextRoot_of_root h.1 h.2.1 h.2.2).2.2
  · next h =>
    rw [withContextRoot, if_neg fun hroot => h ⟨hroot.1, isContextRoot_iff.mp hroot.2⟩]

theorem Target.IsUri.withPath {target : Target} (h : target.IsUri) (hpath : target.path ≠ "") {path : String}
    (hchars : path.toList.all isPathChar = true) (hne : path ≠ "") : ({ target with path } : Target).IsUri where
  path := hchars
  query := h.query
  pathless := fun hempty => absurd hempty hne
  form := fun origin horigin =>
    iff_of_false (fun hscheme => hpath ((h.form origin horigin).mp hscheme)) hne

theorem ne_append_slash (contextPath : String) : contextPath ≠ contextPath ++ "/" := by
  intro heq
  have hsize := congrArg String.utf8ByteSize heq
  rw [String.utf8ByteSize_append] at hsize
  have hone : "/".utf8ByteSize = 1 := rfl
  omega

/-! ### Requests -/

/-- Of the requests for a URI those and only those are changed that are for the context path with one slash behind it.
They become requests for the context path: a URI can be made of the new text and of the old scheme and authority, with
the query as it was. All others stay as they are. Method, headers and body are never changed, and once is enough. -/
theorem slash_taken_off_context_root (contextPath : String) {request : Request} (huri : request.target.IsUri) :
    let after := request.withContextRoot contextPath
    (after.target ≠ request.target ↔ contextPath ≠ "" ∧ request.target.path = contextPath ++ "/") ∧
    (contextPath ≠ "" → request.target.path = contextPath ++ "/" →
      after.target = { request.target with path := contextPath } ∧
      ∃ rewritten, PathAndQuery.ofText? (PathAndQuery.text ⟨contextPath, request.target.query⟩) = some rewritten ∧
        Target.ofParts? ⟨request.target.parts.scheme, request.target.parts.authority, some rewritten⟩ =
          some after.target) ∧
    (¬(contextPath ≠ "" ∧ request.target.path = contextPath ++ "/") → after = request) ∧
    after.method = request.method ∧ after.headers = request.headers ∧ after.body = request.body ∧
    after.target.IsUri ∧ after.withContextRoot contextPath = after := by
  intro after
  have htarget : after.target = request.target.withContextRoot contextPath := rfl
  by_cases hroot : contextPath ≠ "" ∧ request.target.path = contextPath ++ "/"
  · obtain ⟨hne, hpath⟩ := hroot
    obtain ⟨hread, hmade, hafter⟩ := Target.withContextRoot_of_root huri hne hpath
    rw [← htarget] at hafter
    have hlonger : request.target.path ≠ contextPath := fun hsame =>
      ne_append_slash contextPath (hsame.symm.trans hpath)
    have hown : request.target.path ≠ "" := by
      rw [hpath]
      exact fun hempty => hne (String.append_eq_empty_iff.mp hempty).1
    have hchars : contextPath.toList.all isPathChar = true := all_isPathChar_of_slash (hpath ▸ huri.path)
    refine ⟨iff_of_true (fun hsame => ?_) ⟨hne, hpath⟩, fun _ _ => ⟨hafter, _, hread, hmade.trans (by rw [hafter])⟩,
      fun hnot => absurd ⟨hne, hpath⟩ hnot, rfl, rfl, rfl, ?_, ?_⟩
    · rw [hafter] at hsame
      exact hlonger (congrArg Target.path hsame).symm
    · rw [hafter]
      exact huri.withPath hown hchars hne
    · rw [Request.withContextRoot, Target.withContextRoot_of_not_root]
      rw [hafter]
      exact fun hagain => ne_append_slash contextPath hagain.2
  · have hkept : request.target.withContextRoot contextPath = request.target :=
      Target.withContextRoot_of_not_root hroot
    have hafter : after = request := by
      rw [show after = { request with target := request.target.withContextRoot contextPath } from rfl, hkept]
    rw [hafter]
    refine ⟨iff_of_false (fun hchanged => hchanged rfl) hroot, fun hne hpath => absurd ⟨hne, hpath⟩ hroot, fun _ => rfl,
      rfl, rfl, rfl, huri, hafter⟩

def absoluteRequest : Request where
  method := "POST"
  target := ⟨some ⟨some "http", "localhost:8080"⟩, "/shop/", some ""⟩
  headers := [("accept", Bytes.ofText "text/html")]
  body := Bytes.ofText "a=b"

theorem slash_taken_off_context_root_absoluteRequest :
    (absoluteRequest.withContextRoot "/shop").target = ⟨some ⟨some "http", "localhost:8080"⟩, "/shop", some ""⟩ ∧
      (absoluteRequest.withContextRoot "/sho").target = absoluteRequest.target := by
  have huri : absoluteRequest.target.IsUri := by decide
  obtain ⟨-, hroot, -⟩ := slash_taken_off_context_root "/shop" huri
  obtain ⟨-, -, hother, -⟩ := slash_taken_off_context_root "/sho" huri
  exact ⟨(hroot (by decide) (by decide)).1, congrArg Request.target (hother (by decide))⟩

end AppServer.Http
