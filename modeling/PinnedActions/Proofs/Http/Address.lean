import PinnedActions.Proofs.Http.Dots
import Mathlib.Data.List.DropRight

/-!
# Addresses below a root

The address of a path is the base address of an API, a slash, and the path.  Reading it as a URL is
one cut after the other, and as the slash ends whatever could go on beyond it, none of the cuts but
the last looks at what follows.  So when the base address alone is a URL of the web without a query
and a fragment, an address below it is the same URL with another path: the path of the base address,
and then what follows, segment by segment (`parse?_below`).

What follows has to be made of characters that mean nothing to a URL (`Url.IsInert`).
-/

set_option autoImplicit false

namespace PinnedActions

namespace Url

/-! ## Characters without a meaning -/

/-- Whether a character means nothing to a URL below its root: it stands for itself in a path, and it
separates segments only if it is a slash. -/
def isInert (c : Char) : Bool := keepInPath c && c != '\\'

/-- Whether all characters of a text mean nothing to a URL. -/
def IsInert (x : Text) : Prop := ∀ c ∈ x, isInert c = true

theorem IsInert.not_mem {x : Text} (hx : IsInert x) {c : Char} (hc : isInert c = false) : c ∉ x :=
  fun hmem => by
    rw [hx c hmem] at hc
    cases hc

theorem IsInert.cons_slash {x : Text} (hx : IsInert x) : IsInert ('/' :: x) :=
  List.forall_mem_cons.2 ⟨by decide, hx⟩

theorem IsInert.isPadding_eq_false {x : Text} (hx : IsInert x) {c : Char} (hc : c ∈ x) :
    isPadding c = false := by
  have hspace : c.toNat ≠ ' '.toNat := fun h =>
    hx.not_mem (c := ' ') (by decide) (Char.toNat_inj.1 h ▸ hc)
  have hkeep := hx c hc
  simp only [isInert, keepInPath, keepInFragment, isPrintable, Bool.and_eq_true,
    decide_eq_true_eq] at hkeep
  simp only [isPadding, decide_eq_false_iff_not]
  change c.toNat ≠ 0x20 at hspace
  omega

theorem IsInert.encode_eq {x : Text} (hx : IsInert x) : Percent.encode keepInPath x = x :=
  Percent.encode_of_forall fun c hc => (Bool.and_eq_true_iff.1 (hx c hc)).1

theorem IsInert.splitOnP_eq {x : Text} (hx : IsInert x) :
    x.splitOnP (isSlash true) = x.splitOn '/' := by
  rw [List.splitOn_eq_splitOnP]
  induction x with
  | nil => rfl
  | cons c x ih =>
    have hc : isSlash true c = (c == '/') := by
      have hback : c ≠ '\\' := fun h => hx.not_mem (c := '\\') (by decide) (h ▸ List.mem_cons_self)
      simp [isSlash, hback, Bool.beq_eq_decide_eq]
    rw [List.splitOnP_cons_eq_if_modifyHead, List.splitOnP_cons_eq_if_modifyHead, hc,
      ih fun d hd => hx d (List.mem_cons_of_mem c hd)]

/-! ## Cutting at the front -/

/-- Cleaning leaves what follows the slash as it is. -/
theorem clean_below (t : Text) :
    ∃ front, ∀ {x : Text}, IsInert x → clean (t ++ '/' :: x) = front ++ '/' :: x := by
  refine ⟨(t.dropWhile isPadding).filter fun c => c != '\t' && c != '\n' && c != '\r',
    fun {x} hx => ?_⟩
  have hend : Text.dropTrailing isPadding (t.dropWhile isPadding ++ '/' :: x) =
      t.dropWhile isPadding ++ '/' :: x :=
    List.rdropWhile_eq_self_iff.2 fun hne => by
      rw [List.getLast_append_of_ne_nil hne (List.cons_ne_nil _ _)]
      simp [hx.cons_slash.isPadding_eq_false (List.getLast_mem (List.cons_ne_nil '/' x))]
  have hfilter : ('/' :: x).filter (fun c => c != '\t' && c != '\n' && c != '\r') = '/' :: x :=
    List.filter_eq_self.2 fun c hc => by
      have hne : ∀ {d : Char}, isInert d = false → c ≠ d := fun hd h =>
        hx.cons_slash.not_mem hd (h ▸ hc)
      simp only [Bool.and_eq_true, bne_iff_ne]
      exact ⟨⟨hne (by decide), hne (by decide)⟩, hne (by decide)⟩
  rw [clean, Text.dropLeading, Text.dropWhile_append_of_neg (by decide), hend, List.filter_append,
    hfilter]

theorem cutAt_of_not_mem {mark : Char} {t : Text} (h : mark ∉ t) : cutAt mark t = (t, none) := by
  have hall : ∀ c ∈ t, (c != mark) = true := fun c hc =>
    bne_iff_ne.2 fun heq => h (heq ▸ hc)
  rw [cutAt, List.span_eq_takeWhile_dropWhile, List.takeWhile_eq_self_iff.2 hall,
    List.dropWhile_eq_nil_iff.2 hall]

theorem not_mem_of_cutAt {mark : Char} {t : Text} (h : (cutAt mark t).2 = none) : mark ∉ t := by
  intro hmem
  rw [cutAt, List.span_eq_takeWhile_dropWhile] at h
  split at h
  · cases h
  · rename_i hspan
    rw [Prod.mk.injEq, List.dropWhile_eq_nil_iff] at hspan
    simpa using hspan.2 mark hmem

/-- The scheme ends before the slash. -/
theorem scheme?_below {t scheme rest : Text} (h : scheme? (t ++ ['/']) = some (scheme, rest)) :
    ∃ front, rest = front ++ ['/'] ∧
      ∀ x, scheme? (t ++ '/' :: x) = some (scheme, front ++ '/' :: x) := by
  have hspan := Text.span_append_of_neg (p := isSchemeChar) (c := '/') (by decide) t
  rw [scheme?, hspan] at h
  split at h
  · rename_i c name after heq
    obtain ⟨hname, hafter⟩ := Prod.mk.inj heq
    split at h
    · rename_i hletter
      cases h
      cases hdrop : t.dropWhile isSchemeChar with
      | nil =>
        rw [hdrop] at hafter
        exact absurd (List.cons.inj hafter).1 (by decide)
      | cons colon front =>
        rw [hdrop, List.cons_append] at hafter
        obtain ⟨rfl, rfl⟩ := List.cons.inj hafter
        refine ⟨front, rfl, fun x => ?_⟩
        rw [scheme?, hspan, hname, hdrop, List.cons_append]
        simp only [hletter, if_true]
    · cases h
  · cases h

/-! ## Cutting at the end -/

/-- The segments before the slash are walked first, and then those that follow it. -/
theorem segmentsOf_below {t : Text} (ht : t.head?.all (isSlash true)) :
    ∃ before : List Text, (∀ segment ∈ before, '/' ∉ segment) ∧ ∀ {x : Text}, IsInert x →
      segmentsOf true (t ++ '/' :: x) = resolveDots before (x.splitOn '/') := by
  obtain ⟨pieces, hpieces⟩ : ∃ pieces, t.splitOnP (isSlash true) = [] :: pieces := by
    cases t with
    | nil => exact ⟨[], rfl⟩
    | cons c t => exact ⟨_, by rw [List.splitOnP_cons_eq_if_modifyHead, if_pos (by simpa using ht)]⟩
  refine ⟨(pieces.map (Percent.encode keepInPath)).foldl advance [], fun segment h hslash => ?_,
    fun {x} hx => ?_⟩
  · rcases mem_foldl_advance h with h | h
    · cases h
    · obtain ⟨piece, hpiece, rfl⟩ := List.mem_map.1 h
      rcases Percent.mem_of_mem_encode hslash with ⟨hmem, -⟩ | hmem | hmem
      · have hno := Text.eq_false_of_mem_splitOnP (p := isSlash true)
          (hpieces ▸ List.mem_cons_of_mem [] hpiece) hmem
        exact absurd hno (by decide)
      · exact absurd hmem (by decide)
      · exact absurd hmem (by decide)
  · have hsplit : (t ++ '/' :: x).splitOnP (isSlash true) = [] :: (pieces ++ x.splitOn '/') := by
      rw [List.splitOnP_append_cons t x (by decide), hpieces, hx.splitOnP_eq, List.cons_append]
    have hencode : (x.splitOn '/').map (Percent.encode keepInPath) = x.splitOn '/' := by
      rw [← Percent.splitOn_encode (by decide) (by decide) (by decide), hx.encode_eq]
    obtain ⟨first, rest, hrest⟩ : ∃ first rest, pieces ++ x.splitOn '/' = first :: rest :=
      List.exists_cons_of_ne_nil (by simp)
    rw [segmentsOf, hsplit, hrest]
    simp only
    rw [← hrest, List.map_append, hencode, resolveDots_append (List.splitOn_ne_nil '/' x)]

/-- The host and the number after it end before the slash. -/
theorem webLocation?_below {usual : Nat} {t : Text} {place : Location}
    (h : webLocation? usual (t ++ ['/']) = some place) :
    ∃ before : List Text, (∀ segment ∈ before, '/' ∉ segment) ∧ ∀ {x : Text}, IsInert x →
      webLocation? usual (t ++ '/' :: x) =
        some { place with path := .segments (resolveDots before (x.splitOn '/')) } := by
  -- slashes alone have no host after them
  have hne : t.dropWhile (isSlash true) ≠ [] := by
    intro hnil
    have hempty : (t ++ ['/']).dropWhile (isSlash true) = [] := by
      rw [List.dropWhile_append, hnil]
      rfl
    rw [webLocation?, hempty] at h
    cases h
  obtain ⟨body, hbody⟩ : ∃ body : Text, ∀ x : Text,
      (t ++ '/' :: x).dropWhile (isSlash true) = body ++ '/' :: x :=
    ⟨t.dropWhile (isSlash true), fun x => by
      rw [List.dropWhile_append, if_neg (by simpa using hne)]⟩
  have hspan := Text.span_append_of_neg (p := fun c => !isSlash true c) (c := '/') (by decide) body
  have hhead : ((body.dropWhile fun c => !isSlash true c).head?).all (isSlash true) = true := by
    have hnot := List.head?_dropWhile_not (fun c => !isSlash true c) body
    cases hfirst : (body.dropWhile fun c => !isSlash true c).head? with
    | none => rfl
    | some c =>
      rw [hfirst] at hnot
      simpa using hnot
  obtain ⟨before, hbefore, hsegments⟩ := segmentsOf_below hhead
  refine ⟨before, hbefore, fun {x} hx => ?_⟩
  rw [webLocation?, hbody, hspan] at h ⊢
  simp only [Option.bind_eq_bind, Option.bind_eq_some_iff, Option.pure_def] at h
  obtain ⟨host, hhost, number, hnumber, hplace⟩ := h
  cases hplace
  simp only [Option.bind_eq_bind, hhost, hnumber, Option.bind_some, hsegments hx, Option.pure_def]

theorem resolveDots_nil (before : List Text) :
    resolveDots before (([] : Text).splitOn '/') = before.reverse ++ [[]] := by
  rw [List.splitOn_nil, resolveDots_eq, List.foldl_cons, List.foldl_nil, advance]
  simp [isDoubleDot, isDot, plainDots, ending]

/-- The URL of the web at a place, without a query and a fragment. -/
def ofPlace (scheme : Text) (place : Location) : Url where
  scheme
  credentials := place.credentials
  host := place.host
  portNumber := place.portNumber
  path := place.path
  query := none
  fragment := none

/-- What it takes for a text to be a URL of the web without a query and a fragment. -/
theorem parse?_eq_some_iff {t : Text} {u : Url} {usual : Nat}
    (hweb : webSchemes.lookup u.scheme = some usual) :
    parse? t = some u ∧ u.query = none ∧ u.fragment = none ↔
      '#' ∉ clean t ∧ '?' ∉ clean t ∧ ∃ rest place, scheme? (clean t) = some (u.scheme, rest) ∧
        webLocation? usual rest = some place ∧ u = ofPlace u.scheme place := by
  constructor
  · rintro ⟨h, hquery, hfragment⟩
    simp only [parse?, Option.bind_eq_bind, Option.bind_eq_some_iff, Option.pure_def] at h
    obtain ⟨⟨scheme, rest⟩, hscheme, h⟩ := h
    -- the scheme decides who reads the rest, and is put into the URL as it is in any case
    have hsame : u.scheme = scheme := by
      have hput : ∀ {place? : Option Location} {path : Location → UrlPath} {query fragment},
          (place?.bind fun place => some (Url.mk scheme place.credentials place.host
            place.portNumber (path place) query fragment)) = some u → u.scheme = scheme :=
        fun h => by
          obtain ⟨place, -, hu⟩ := Option.bind_eq_some_iff.1 h
          exact (congrArg Url.scheme (Option.some.inj hu)).symm
      simp only at h
      split at h
      · exact hput h
      · split at h <;> exact hput h
    simp only [hsame ▸ hweb] at h
    obtain ⟨place, hplace, hu⟩ := Option.bind_eq_some_iff.1 h
    cases hu
    have hhash := not_mem_of_cutAt (Option.map_eq_none_iff.1 hfragment)
    rw [cutAt_of_not_mem hhash] at hscheme hquery ⊢
    have hmark := not_mem_of_cutAt (Option.map_eq_none_iff.1 hquery)
    rw [cutAt_of_not_mem hmark] at hscheme ⊢
    exact ⟨hhash, hmark, rest, place, hscheme, hplace, rfl⟩
  · rintro ⟨hhash, hmark, rest, place, hscheme, hplace, hu⟩
    refine ⟨?_, by rw [hu]; rfl, by rw [hu]; rfl⟩
    rw [hu, parse?]
    simp only [cutAt_of_not_mem hhash, cutAt_of_not_mem hmark, hscheme, hweb, hplace,
      Option.bind_eq_bind, Option.bind_some, Option.pure_def, Option.map_none]
    rfl

/-- **An address below a root is the root with another path.** -/
theorem parse?_below {base : Text} {root : Url} {usual : Nat}
    (h : parse? (base ++ ['/']) = some root) (hweb : webSchemes.lookup root.scheme = some usual)
    (hquery : root.query = none) (hfragment : root.fragment = none) :
    ∃ stem : List Text, root.path = .segments (stem ++ [[]]) ∧ (∀ segment ∈ stem, '/' ∉ segment) ∧
      ∀ {x : Text}, IsInert x → parse? (base ++ '/' :: x) =
        some { root with path := .segments (resolveDots stem.reverse (x.splitOn '/')) } := by
  obtain ⟨front, hclean⟩ := clean_below base
  have hempty : IsInert [] := by simp [IsInert]
  obtain ⟨hhash, hmark, rest, place, hscheme, hplace, hroot⟩ :=
    (parse?_eq_some_iff hweb).1 ⟨h, hquery, hfragment⟩
  rw [hclean hempty] at hhash hmark hscheme
  obtain ⟨after, rfl, hschemes⟩ := scheme?_below hscheme
  obtain ⟨before, hbefore, hplaces⟩ := webLocation?_below hplace
  refine ⟨before.reverse, ?_, by simpa using hbefore, fun {x} hx => ?_⟩
  · have hnone := hplaces hempty
    rw [hplace, resolveDots_nil] at hnone
    rw [hroot]
    exact congrArg Location.path (Option.some.inj hnone)
  · have hnot : ∀ {mark : Char}, mark ∉ front ++ ['/'] → isInert mark = false →
        mark ∉ clean (base ++ '/' :: x) := fun hmem hinert => by
      rw [hclean hx]
      exact List.not_mem_append (fun h => hmem (List.mem_append_left _ h))
        (hx.cons_slash.not_mem hinert)
    have hread := (parse?_eq_some_iff (u := ofPlace root.scheme { place with
        path := .segments (resolveDots before (x.splitOn '/')) }) hweb).2
      ⟨hnot hhash (by decide), hnot hmark (by decide), _, _,
        by rw [hclean hx, hschemes]; rfl, hplaces hx, rfl⟩
    rw [hread.1, hroot, List.reverse_reverse]
    rfl

end Url

end PinnedActions
