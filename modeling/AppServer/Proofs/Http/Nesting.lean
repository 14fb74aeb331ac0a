import AppServer.Http.Route
import AppServer.Proofs.Except
import AppServer.Proofs.Text.Cut
import Mathlib.Data.List.Basic

/-!
# Routers below a literal path

A router that is nested below a path without captures is the same router in
another place: the routes that match below the path are those that match the
rest behind it, with the same captures, and their endpoints see the request as
they would without the path. Nothing else is matched.
-/

namespace AppServer.Http

/-! ### Reading routes -/

/-- A path that stands for nothing but itself in a route. -/
structure IsLiteral (outer : List Char) : Prop where
  path : isRoutePath outer = true
  braces : '{' ∉ outer ∧ '}' ∉ outer

def literals (cs : List Char) : List RoutePiece := cs.map .literal

theorem isRoutePath_iff {cs : List Char} : isRoutePath cs = true ↔
    ∃ rest, cs = '/' :: rest ∧ (Text.cutAll '/' rest).any isOldCapture = false := by
  constructor
  · intro h
    rw [isRoutePath.eq_def] at h
    split at h
    · next rest => exact ⟨rest, rfl, (Bool.not_eq_true' _).mp h⟩
    · cases h
  · rintro ⟨rest, rfl, hparts⟩
    rw [isRoutePath, hparts]
    rfl

theorem isRoutePath_append {outer inner : List Char} (houter : isRoutePath outer = true)
    (hinner : isRoutePath inner = true) : isRoutePath (outer ++ inner) = true := by
  obtain ⟨front, rfl, hfront⟩ := isRoutePath_iff.mp houter
  obtain ⟨behind, rfl, hbehind⟩ := isRoutePath_iff.mp hinner
  refine isRoutePath_iff.mpr ⟨front ++ '/' :: behind, rfl, ?_⟩
  rw [Text.cutAll_append_sep, List.any_append, hfront, hbehind]
  rfl

theorem unescapeRoute_cons {c : Char} (hopen : c ≠ '{') (hclose : c ≠ '}') (rest : List Char) :
    unescapeRoute (c :: rest) = (c, false) :: unescapeRoute rest := by
  rw [unescapeRoute]
  · rintro rest rfl
    exact absurd rfl hopen
  · rintro rest rfl
    exact absurd rfl hclose

theorem unescapeRoute_append {start : List Char} (hbraces : '{' ∉ start ∧ '}' ∉ start) (rest : List Char) :
    unescapeRoute (start ++ rest) = start.map (·, false) ++ unescapeRoute rest := by
  induction start with
  | nil => rfl
  | cons c start ih =>
    simp only [List.mem_cons, not_or] at hbraces
    obtain ⟨⟨hopen, hopens⟩, hclose, hcloses⟩ := hbraces
    rw [List.cons_append, unescapeRoute_cons (Ne.symm hopen) (Ne.symm hclose), ih ⟨hopens, hcloses⟩]
    rfl

theorem readPieces_cons {c : Char} (hopen : c ≠ '{') (hclose : c ≠ '}') (fuel : Nat) (afterSlash : Bool)
    (rest : List (Char × Bool)) :
    readPieces (fuel + 1) afterSlash ((c, false) :: rest) =
      (readPieces fuel (c = '/') rest).map (.literal c :: ·) := by
  rw [readPieces]
  · cases readPieces fuel (c = '/') rest <;> rfl
  · rintro rfl
    exact absurd rfl hclose
  · rintro rfl
    exact absurd rfl hopen

/-- Only a slash may stand before a capture of a whole rest, so before a slash it does not matter what stands. -/
theorem readPieces_slash (fuel : Nat) (afterSlash : Bool) (rest : List (Char × Bool)) :
    readPieces (fuel + 1) afterSlash (('/', false) :: rest) =
      (readPieces fuel true rest).map (.literal '/' :: ·) := by
  rw [readPieces_cons (by decide) (by decide)]
  rfl

theorem readPieces_append {start : List Char} (hbraces : '{' ∉ start ∧ '}' ∉ start) (fuel : Nat)
    (afterSlash : Bool) (rest : List (Char × Bool)) : ∃ flag,
    readPieces (start.length + fuel) afterSlash (start.map (·, false) ++ rest) =
      (readPieces fuel flag rest).map (literals start ++ ·) := by
  induction start generalizing afterSlash with
  | nil =>
    refine ⟨afterSlash, ?_⟩
    rw [List.length_nil, Nat.zero_add]
    exact Option.map_id'.symm
  | cons c start ih =>
    simp only [List.mem_cons, not_or] at hbraces
    obtain ⟨⟨hopen, hopens⟩, hclose, hcloses⟩ := hbraces
    obtain ⟨flag, hflag⟩ := ih ⟨hopens, hcloses⟩ (c = '/')
    have hlength : (c :: start).length + fuel = start.length + fuel + 1 := by
      rw [List.length_cons]
      omega
    refine ⟨flag, ?_⟩
    rw [hlength, List.map_cons, List.cons_append, readPieces_cons (Ne.symm hopen) (Ne.symm hclose), hflag,
      Option.map_map]
    rfl

theorem readPieces_eq_nil {fuel : Nat} {afterSlash : Bool} {cs : List (Char × Bool)}
    (h : readPieces fuel afterSlash cs = some []) : cs = [] := by
  rw [readPieces.eq_def] at h
  split at h
  · rfl
  · cases h
  · cases h
  · obtain ⟨⟨name, after⟩, -, h⟩ := Option.bind_eq_some_iff.mp h
    dsimp only at h
    split at h
    · split at h
      · cases h
      · cases h
    · obtain ⟨_, -, h⟩ := Option.bind_eq_some_iff.mp h
      cases h
  · obtain ⟨_, -, h⟩ := Option.bind_eq_some_iff.mp h
    cases h

theorem unescapeRoute_eq_nil {cs : List Char} (h : unescapeRoute cs = []) : cs = [] := by
  rw [unescapeRoute.eq_def] at h
  split at h
  · cases h
  · cases h
  · cases h
  · rfl

theorem readRoute?_literal {outer : String} (h : IsLiteral outer.toList) :
    readRoute? outer = some (literals outer.toList) := by
  have hcs : unescapeRoute outer.toList = outer.toList.map (·, false) := by
    have happend := unescapeRoute_append h.braces []
    rwa [List.append_nil, unescapeRoute, List.append_nil] at happend
  obtain ⟨flag, hread⟩ := readPieces_append h.braces 0 false []
  rw [List.append_nil, Nat.add_zero, readPieces, Option.map_some, List.append_nil] at hread
  rw [readRoute?, if_pos h.path, hcs, List.length_map, hread]

theorem readRoute?_eq_some {path : String} {pieces : List RoutePiece} (h : readRoute? path = some pieces) :
    isRoutePath path.toList = true ∧ ∃ behind, pieces = .literal '/' :: behind ∧ (behind = [] ↔ path = "/") := by
  rw [readRoute?] at h
  split at h
  · next hpath =>
    obtain ⟨rest, hrest, -⟩ := isRoutePath_iff.mp hpath
    rw [hrest, unescapeRoute_cons (by decide) (by decide), List.length_cons, readPieces_slash,
      Option.map_eq_some_iff] at h
    obtain ⟨behind, hbehind, rfl⟩ := h
    refine ⟨hpath, behind, rfl, ?_, ?_⟩
    · rintro rfl
      have hnil : rest = [] := unescapeRoute_eq_nil (readPieces_eq_nil hbehind)
      rw [hnil] at hrest
      exact String.toList_inj.mp hrest
    · rintro rfl
      cases hrest
      exact (Option.some.inj hbehind).symm
  · cases h

theorem readRoute?_append {outer : String} (h : IsLiteral outer.toList) {path : String} {pieces : List RoutePiece}
    (hread : readRoute? path = some pieces) : readRoute? (outer ++ path) = some (literals outer.toList ++ pieces) := by
  obtain ⟨hpath, behind, rfl, -⟩ := readRoute?_eq_some hread
  obtain ⟨rest, hrest, -⟩ := isRoutePath_iff.mp hpath
  obtain ⟨flag, happend⟩ :=
    readPieces_append h.braces (unescapeRoute path.toList).length false (unescapeRoute path.toList)
  rw [readRoute?, if_pos hpath] at hread
  rw [readRoute?, String.toList_append, if_pos (isRoutePath_append h.path hpath), unescapeRoute_append h.braces,
    List.length_append, List.length_map, happend]
  rw [hrest, unescapeRoute_cons (by decide) (by decide), List.length_cons, readPieces_slash] at hread ⊢
  rw [hread]
  rfl

/-! ### Matching -/

theorem matchPieces_literals (start : List Char) (pieces : List RoutePiece) (rest : List Char) :
    matchPieces (literals start ++ pieces) (start ++ rest) = matchPieces pieces rest := by
  induction start with
  | nil => rfl
  | cons c start ih =>
    rw [literals, List.map_cons, List.cons_append, List.cons_append, matchPieces, if_pos rfl]
    exact ih

theorem eq_append_of_matchPieces {start : List Char} {pieces : List RoutePiece} {path : List Char}
    {captures : Captures} (h : matchPieces (literals start ++ pieces) path = some captures) :
    ∃ rest, path = start ++ rest ∧ matchPieces pieces rest = some captures := by
  induction start generalizing path with
  | nil => exact ⟨path, rfl, h⟩
  | cons c start ih =>
    rw [literals, List.map_cons, List.cons_append] at h
    cases path with
    | nil => cases h
    | cons d path =>
      rw [matchPieces] at h
      split at h
      · next hsame =>
        obtain ⟨rest, rfl, hrest⟩ := ih h
        exact ⟨rest, by rw [hsame, List.cons_append], hrest⟩
      · cases h

theorem eq_nil_of_matchPieces_nil {pieces : List RoutePiece} {captures : Captures}
    (h : matchPieces pieces [] = some captures) : pieces = [] := by
  match pieces, h with
  | [], _ => rfl

theorem capturesLater_literals (start : List Char) (first second : List RoutePiece) :
    capturesLater (literals start ++ first) (literals start ++ second) = capturesLater first second := by
  induction start with
  | nil => rfl
  | cons c start ih =>
    have hrank : RoutePiece.rank (.literal c) = 0 := rfl
    rw [literals, List.map_cons, List.cons_append, List.cons_append, capturesLater]
    simp only [hrank, Nat.lt_irrefl, decide_false, Bool.false_or, decide_true, Bool.true_and]
    exact ih

/-! ### Routes below a path -/

variable {ν : Type}

def Route.IsRead (route : Route ν) : Prop := readRoute? route.path = some route.pieces

def Route.below (outer : String) (route : Route ν) : Route ν where
  path := Router.nestedPath outer route.path
  pieces := if route.path = "/" then literals outer.toList else literals outer.toList ++ route.pieces
  endpoint captures request := route.endpoint captures
    { request with target := { request.target with path := Router.restBelow outer request.target.path } }

variable {outer : String} {route : Route ν}

theorem Route.IsRead.below (h : route.IsRead) (houter : IsLiteral outer.toList) : (route.below outer).IsRead := by
  rw [Route.IsRead, Route.below, Router.nestedPath]
  dsimp only
  split
  · exact readRoute?_literal houter
  · exact readRoute?_append houter h

/-- A route below a path matches what it matches by itself, behind the path. -/
theorem matchPieces_below (h : route.IsRead) {path : String} {rest : List Char} (hpath : path.toList = '/' :: rest) :
    matchPieces (route.below outer).pieces (Router.nestedPath outer path).toList =
      matchPieces route.pieces path.toList := by
  obtain ⟨-, behind, hpieces, hroot⟩ := readRoute?_eq_some h
  have hends : rest = [] ↔ path = "/" := by
    rw [← String.toList_inj, hpath]
    constructor
    · rintro rfl
      rfl
    · exact fun heq => (List.cons.inj heq).2
  have hhere : matchPieces route.pieces path.toList = matchPieces behind rest := by
    rw [hpieces, hpath, matchPieces, if_pos rfl]
  -- the root loses its slash below the path, as a route and as what is asked for
  have hpiecesBelow : (route.below outer).pieces =
      literals outer.toList ++ if route.path = "/" then [] else .literal '/' :: behind := by
    rw [Route.below, hpieces]
    split
    · exact (List.append_nil _).symm
    · rfl
  have hpathBelow : (Router.nestedPath outer path).toList =
      outer.toList ++ if path = "/" then [] else '/' :: rest := by
    rw [Router.nestedPath, ← hpath]
    split
    · exact (List.append_nil _).symm
    · exact String.toList_append
  rw [hpiecesBelow, hpathBelow, matchPieces_literals, hhere]
  by_cases hrouteRoot : route.path = "/"
  · by_cases hpathRoot : path = "/"
    · rw [if_pos hrouteRoot, if_pos hpathRoot, hroot.mpr hrouteRoot, hends.mpr hpathRoot]
    · obtain ⟨c, more, hmore⟩ := List.exists_cons_of_ne_nil (mt hends.mp hpathRoot)
      rw [if_pos hrouteRoot, if_neg hpathRoot, hroot.mpr hrouteRoot, hmore]
      rfl
  · by_cases hpathRoot : path = "/"
    · rw [if_neg hrouteRoot, if_pos hpathRoot, hends.mpr hpathRoot]
      cases hmatch : matchPieces behind [] with
      | none => rfl
      | some captures => exact absurd (hroot.mp (eq_nil_of_matchPieces_nil hmatch)) hrouteRoot
    · rw [if_neg hrouteRoot, if_neg hpathRoot, matchPieces, if_pos rfl]

/-- Of two routes that match the same, the same one captures later below a path. -/
theorem capturesLater_below {first second : Route ν} (hfirst : first.IsRead) (hsecond : second.IsRead) {path : String}
    {rest : List Char} (hpath : path.toList = '/' :: rest) {captures more : Captures}
    (hmatch : matchPieces first.pieces path.toList = some captures)
    (hother : matchPieces second.pieces path.toList = some more) :
    capturesLater (first.below outer).pieces (second.below outer).pieces =
      capturesLater first.pieces second.pieces := by
  -- two routes that match the same path are both the root or both not
  have hroots {route : Route ν} {captures : Captures} (hread : route.IsRead)
      (hmatch : matchPieces route.pieces path.toList = some captures) : route.path = "/" ↔ path = "/" := by
    obtain ⟨-, behind, hpieces, hroot⟩ := readRoute?_eq_some hread
    rw [hpieces, hpath, matchPieces, if_pos rfl] at hmatch
    rw [← hroot, ← String.toList_inj, hpath]
    constructor
    · rintro rfl
      cases rest with
      | nil => rfl
      | cons c rest => cases hmatch
    · intro heq
      rw [(List.cons.inj heq).2] at hmatch
      exact eq_nil_of_matchPieces_nil hmatch
  have hsame : first.path = "/" ↔ second.path = "/" := (hroots hfirst hmatch).trans (hroots hsecond hother).symm
  rw [Route.below, Route.below]
  dsimp only
  by_cases hroot : first.path = "/"
  · obtain ⟨-, behind, hpieces, hbehind⟩ := readRoute?_eq_some hfirst
    obtain ⟨-, others, hothers, hend⟩ := readRoute?_eq_some hsecond
    have hnone := capturesLater_literals outer.toList [] []
    rw [List.append_nil] at hnone
    rw [if_pos hroot, if_pos (hsame.mp hroot), hnone, hpieces, hothers, hbehind.mpr hroot, hend.mpr (hsame.mp hroot)]
    rfl
  · rw [if_neg hroot, if_neg (mt hsame.mpr hroot), capturesLater_literals]

/-! ### Routers below a path -/

namespace Router

variable {router : Router ν}

def below (outer : String) (router : Router ν) : Router ν := ⟨router.routes.map (Route.below outer)⟩

def IsRead (router : Router ν) : Prop := ∀ route ∈ router.routes, route.IsRead

theorem isRead_of_ofList? {table : List (String × Endpoint ν)} (h : ofList? table = some router) : router.IsRead := by
  intro route hroute
  obtain ⟨routes, hroutes, rfl⟩ := Option.map_eq_some_iff.mp h
  obtain ⟨written, -, hmade⟩ := (mem_of_mapM hroutes).2 route hroute
  obtain ⟨pieces, hpieces, rfl⟩ := Option.map_eq_some_iff.mp hmade
  exact hpieces

theorem IsRead.layer (h : router.IsRead) (wrap : Handler ν → Handler ν) : (router.layer wrap).IsRead := by
  intro route hroute
  obtain ⟨bare, hbare, rfl⟩ := List.mem_map.mp hroute
  exact h bare hbare

theorem mayNest_literal (h : IsLiteral outer.toList) : mayNest outer = true := by
  obtain ⟨rest, hrest, hparts⟩ := isRoutePath_iff.mp h.path
  rw [mayNest, List.all_eq_true]
  intro part hpart
  have hold : isOldCapture part = false := by
    rw [hrest, Text.cutAll, if_pos rfl] at hpart
    rcases List.mem_cons.mp hpart with rfl | hpart
    · rfl
    · exact Bool.eq_false_iff.mpr (List.any_eq_false.mp hparts part hpart)
  have hplain : Text.dropStart? ['{', '*'] part = none := by
    cases part with
    | nil => rfl
    | cons c part =>
      have hbrace : c ≠ '{' := by
        rintro rfl
        exact h.braces.1 (Text.mem_of_mem_cutAll hpart List.mem_cons_self)
      rw [Text.dropStart?, if_neg (by simpa using hbrace.symm)]
  rw [hold, hplain]
  rfl

/-- A router can be nested below every literal path. -/
theorem nest?_literal (hrouter : router.IsRead) (houter : IsLiteral outer.toList) :
    router.nest? outer = some (router.below outer) := by
  have hread : ∀ route ∈ router.routes, ((fun written : String × Endpoint ν =>
        (readRoute? written.1).map fun pieces => (⟨written.1, pieces, written.2⟩ : Route ν)) ∘
      fun route : Route ν => (nestedPath outer route.path, (route.below outer).endpoint)) route =
        some (route.below outer) := by
    intro route hroute
    have hbelow : readRoute? (nestedPath outer route.path) = some (route.below outer).pieces :=
      (hrouter route hroute).below houter
    rw [Function.comp_apply, hbelow]
    rfl
  rw [nest?, mayNest_literal houter, ofList?]
  have hroutes := mapM_eq_some_map hread
  rw [← List.mapM_map] at hroutes
  rw [Bool.not_true, if_neg Bool.false_ne_true]
  exact congrArg (Option.map Router.mk) hroutes

def choose (found : Option (Route ν × Captures)) (next : Route ν × Captures) : Option (Route ν × Captures) :=
  match found with
  | none => some next
  | some held => if capturesLater next.1.pieces held.1.pieces then some next else some held

theorem foldl_choose_map {place : Route ν → Route ν} {found : List (Route ν × Captures)}
    {best : Option (Route ν × Captures)}
    (hsame : ∀ a ∈ best.toList ++ found, ∀ b ∈ best.toList ++ found,
      capturesLater (place a.1).pieces (place b.1).pieces = capturesLater a.1.pieces b.1.pieces) :
    (found.map fun a => (place a.1, a.2)).foldl choose (best.map fun a => (place a.1, a.2)) =
      (found.foldl choose best).map fun a => (place a.1, a.2) := by
  induction found generalizing best with
  | nil => rfl
  | cons next rest ih =>
    have hstep : choose (best.map fun a => (place a.1, a.2)) (place next.1, next.2) =
        (choose best next).map fun a => (place a.1, a.2) := by
      cases best with
      | none => rfl
      | some held =>
        have hlater := hsame next (by simp) held (by simp)
        rw [Option.map_some, choose, choose, hlater]
        split
        · rfl
        · rfl
    have hmem : ∀ a ∈ (choose best next).toList ++ rest, a ∈ best.toList ++ next :: rest := by
      intro a ha
      rcases List.mem_append.mp ha with ha | ha
      · cases best with
        | none =>
          rw [choose, Option.toList_some, List.mem_singleton] at ha
          rw [ha]
          exact List.mem_append_right _ List.mem_cons_self
        | some held =>
          rw [choose] at ha
          split at ha
          · rw [List.mem_singleton.mp ha]
            exact List.mem_append_right _ List.mem_cons_self
          · exact List.mem_append_left _ ha
      · exact List.mem_append_right _ (List.mem_cons_of_mem _ ha)
    rw [List.map_cons, List.foldl_cons, List.foldl_cons, hstep]
    exact ih fun a ha b hb => hsame a (hmem a ha) b (hmem b hb)

/-- Below a literal path the route is found that would be found without it, with the same captures. -/
theorem find?_below (hrouter : router.IsRead) {path : String} {rest : List Char} (hpath : path.toList = '/' :: rest) :
    (router.below outer).find? (nestedPath outer path) =
      (router.find? path).map fun found => (found.1.below outer, found.2) := by
  let found := router.routes.filterMap fun route =>
    (matchPieces route.pieces path.toList).map fun captures => (route, captures)
  have hfound : ((router.below outer).routes.filterMap fun route =>
      (matchPieces route.pieces (nestedPath outer path).toList).map fun captures => (route, captures)) =
        found.map fun a => (a.1.below outer, a.2) := by
    rw [below, List.filterMap_map, List.map_filterMap]
    refine List.filterMap_congr fun route hroute => ?_
    rw [Function.comp_apply, matchPieces_below (hrouter route hroute) hpath, Option.map_map]
    rfl
  have hmatch {a : Route ν × Captures} (ha : a ∈ found) :
      a.1.IsRead ∧ matchPieces a.1.pieces path.toList = some a.2 := by
    obtain ⟨route, hroute, hmap⟩ := List.mem_filterMap.mp ha
    obtain ⟨captures, hcaptures, rfl⟩ := Option.map_eq_some_iff.mp hmap
    exact ⟨hrouter route hroute, hcaptures⟩
  have hchoose := @foldl_choose_map ν (Route.below outer) found none fun a ha b hb =>
    capturesLater_below (hmatch ha).1 (hmatch hb).1 hpath (hmatch ha).2 (hmatch hb).2
  rw [find?, find?, hfound]
  exact hchoose

theorem find?_layer_eq (router : Router ν) (wrap : Handler ν → Handler ν) (path : String) :
    (router.layer wrap).find? path = (router.find? path).map fun found =>
      ({ found.1 with endpoint := fun captures => wrap (found.1.endpoint captures) }, found.2) := by
  let place (route : Route ν) : Route ν := { route with endpoint := fun captures => wrap (route.endpoint captures) }
  have hfound : ((router.layer wrap).routes.filterMap fun route =>
      (matchPieces route.pieces path.toList).map fun captures => (route, captures)) =
        (router.routes.filterMap fun route =>
          (matchPieces route.pieces path.toList).map fun captures => (route, captures)).map
            fun a => (place a.1, a.2) := by
    rw [layer, List.filterMap_map, List.map_filterMap]
    refine List.filterMap_congr fun route _ => ?_
    rw [Function.comp_apply, Option.map_map]
    rfl
  rw [find?, find?, hfound]
  exact @foldl_choose_map ν place _ none fun _ _ _ _ => rfl

theorem find?_eq_none {path : String}
    (h : ∀ route ∈ router.routes, ∀ captures, matchPieces route.pieces path.toList ≠ some captures) :
    router.find? path = none := by
  have hnone : (router.routes.filterMap fun route =>
      (matchPieces route.pieces path.toList).map fun captures => (route, captures)) = [] := by
    refine List.filterMap_eq_nil_iff.mpr fun route hroute => ?_
    rw [Option.eq_none_iff_forall_ne_some.mpr (h route hroute), Option.map_none]
  rw [find?, hnone]
  rfl

theorem find?_eq_none_of_ne_slash (hrouter : router.IsRead) {path : String}
    (hpath : ∀ rest, path.toList ≠ '/' :: rest) : router.find? path = none := by
  refine find?_eq_none fun route hroute captures hmatch => ?_
  obtain ⟨-, behind, hpieces, -⟩ := readRoute?_eq_some (hrouter route hroute)
  rw [hpieces] at hmatch
  obtain ⟨rest, hrest, -⟩ := @eq_append_of_matchPieces ['/'] behind path.toList captures hmatch
  exact hpath rest hrest

/-- Nothing is found elsewhere than at the path or behind a slash that follows it. -/
theorem find?_below_eq_none (hrouter : router.IsRead) {path : String} (hhere : path ≠ outer)
    (hbehind : ∀ rest, path.toList ≠ outer.toList ++ '/' :: rest) : (router.below outer).find? path = none := by
  refine find?_eq_none fun route hroute captures hmatch => ?_
  obtain ⟨bare, hbare, rfl⟩ := List.mem_map.mp hroute
  obtain ⟨-, behind, hpieces, -⟩ := readRoute?_eq_some (hrouter bare hbare)
  rw [Route.below] at hmatch
  dsimp only at hmatch
  split at hmatch
  · rw [← List.append_nil (literals outer.toList)] at hmatch
    obtain ⟨rest, hrest, hend⟩ := eq_append_of_matchPieces hmatch
    cases rest with
    | nil =>
      rw [List.append_nil, String.toList_inj] at hrest
      exact hhere hrest
    | cons c rest => cases hend
  · obtain ⟨rest, hrest, hend⟩ := eq_append_of_matchPieces hmatch
    rw [hpieces] at hend
    obtain ⟨more, rfl, -⟩ := @eq_append_of_matchPieces ['/'] behind rest captures hend
    exact hbehind more hrest

/-! ### What endpoints see -/

/-- A path as it is handed on: of two slashes at its start one is lost. -/
def handedOn (path : String) : String :=
  if path.toList.tail.head? = some '/' then String.ofList path.toList.tail else path

theorem restBelow_nestedPath {path : String} {rest : List Char} (hpath : path.toList = '/' :: rest) :
    restBelow outer (nestedPath outer path) = handedOn path := by
  have hbehind : (((Text.cutAll '/' (nestedPath outer path).toList).drop (Text.cutAll '/' outer.toList).length).flatMap
      fun part => '/' :: part).tail = rest := by
    rw [nestedPath]
    split
    · next hroot =>
      rw [hroot] at hpath
      rw [List.drop_length, (List.cons.inj hpath).2.symm]
      rfl
    · rw [String.toList_append, hpath, Text.cutAll_append_sep, List.drop_left, Text.flatMap_cons_cutAll, List.tail_cons]
  rw [restBelow, hbehind, handedOn, hpath, List.tail_cons]
  split
  · rfl
  · rw [← hpath, String.ofList_toList]

example : restBelow "/shop" (nestedPath "/shop" "//tea") = "/tea" := by decide

/-- Below a path the router finds for a request the endpoint that it finds without the path. -/
theorem handler_below (hrouter : router.IsRead) {request : Request} {rest : List Char}
    (hpath : request.target.path.toList = '/' :: rest) (context : Option SessionRef) (realm : Realm) :
    (router.below outer).handler
        { request with target := { request.target with path := nestedPath outer request.target.path } } context realm =
      match router.find? request.target.path with
      | some (route, captures) =>
        route.endpoint captures
          { request with target := { request.target with path := handedOn request.target.path } } context realm
      | none => ⟨notFound, realm, none⟩ := by
  rw [handler, find?_below hrouter hpath]
  cases hfind : router.find? request.target.path with
  | none => rfl
  | some found =>
    simp only [Option.map_some, Route.below, restBelow_nestedPath hpath]

end Router

end AppServer.Http
