import PinnedActions.Proofs.Text.Cut
import PinnedActions.Proofs.Text.Trim
import PinnedActions.Proofs.Version.Hash
import PinnedActions.Usage.Line

/-!
# A line that is written is read back

`Usage.render` writes the line of a usage with a new reference and a new comment.  For a usage that
was read from a line, the line that is written is read as that usage with the new reference and the
new comment (`parse?_render`), and with a space for its separator if it had none.

The reader looks for the keyword, a number sign outside quotes, quotes, the last at sign, slashes,
and white space.  `Readable` collects what it found about the parts of a usage that are written
again; `readable_of_parse?` gets it from the line that the usage was read from.  An action with
quotes in its path is left out, because they would count when the number sign is looked for.
-/

set_option autoImplicit false

namespace PinnedActions

/-- Whether there are no quotes in a text. -/
def Text.NoQuotes (t : Text) : Prop := ∀ c ∈ t, c ≠ '\'' ∧ c ≠ '"'

instance (t : Text) : Decidable t.NoQuotes := List.decidableBAll _ t

namespace Usage

open Text

/-! ## The comment -/

/-- Without quotes the state of the scan stays as it is. -/
theorem cutComment_append {single double : Bool} {s : Text} (hquotes : NoQuotes s)
    (hhash : single = true ∨ double = true ∨ '#' ∉ s) (t : Text) :
    cutComment single double (s ++ t) =
      (s ++ (cutComment single double t).1, (cutComment single double t).2) := by
  induction s with
  | nil => rfl
  | cons c rest ih =>
    obtain ⟨hsingle, hdouble⟩ := hquotes c List.mem_cons_self
    have hrest := ih (fun d hd => hquotes d (List.mem_cons_of_mem c hd))
      (hhash.imp_right (Or.imp_right fun h hmem => h (List.mem_cons_of_mem c hmem)))
    rw [List.cons_append, cutComment, if_neg]
    · simp [hsingle, hdouble, hrest]
    · rintro ⟨rfl, h1, h2⟩
      rcases hhash with rfl | rfl | h
      · cases h1
      · cases h2
      · exact h List.mem_cons_self

/-- A value in quotes is passed over, number signs and all. -/
theorem cutComment_wrap {quote : Quote} {inner : Text} (hquotes : NoQuotes inner)
    (hhash : quote = .bare → '#' ∉ inner) (t : Text) :
    cutComment false false (quote.wrap inner ++ t) =
      (quote.wrap inner ++ (cutComment false false t).1, (cutComment false false t).2) := by
  cases quote with
  | bare => exact cutComment_append hquotes (.inr (.inr (hhash rfl))) t
  | single =>
    have h : cutComment true false (inner ++ '\'' :: t) = _ :=
      cutComment_append hquotes (.inl rfl) ('\'' :: t)
    simp [Quote.wrap, between, cutComment, h]
  | double =>
    have h : cutComment false true (inner ++ '"' :: t) = _ :=
      cutComment_append hquotes (.inr (.inl rfl)) ('"' :: t)
    simp [Quote.wrap, between, cutComment, h]

/-- What has neither quotes nor a number sign in it is passed over at the end, too. -/
theorem cutComment_append_of_plain {single double : Bool} {r : Text} (hquotes : NoQuotes r)
    (hhash : '#' ∉ r) (t : Text) :
    cutComment single double (t ++ r) =
      match cutComment single double t with
      | (value, none) => (value ++ r, none)
      | (value, some comment) => (value, some (comment ++ r)) := by
  induction t generalizing single double with
  | nil => simpa [cutComment] using cutComment_append hquotes (.inr (.inr hhash)) []
  | cons c rest ih =>
    rw [List.cons_append, cutComment, cutComment]
    split
    · rfl
    · simp only [ih]
      split <;> simp_all

/-- Nothing but the number sign is lost. -/
theorem eq_of_cutComment (single double : Bool) (t : Text) :
    t = (cutComment single double t).1 ++
      match (cutComment single double t).2 with
      | none => []
      | some after => '#' :: after := by
  induction t generalizing single double with
  | nil => rfl
  | cons c rest ih =>
    rw [cutComment]
    split
    · rename_i hc
      rw [hc.1]
      rfl
    · exact congrArg (c :: ·) (ih _ _)

/-- Up to the first quote there is no number sign in front of the comment. -/
theorem hash_not_mem_of_prefix {p t : Text} (hp : p <+: (cutComment false false t).1)
    (hquotes : NoQuotes p) : '#' ∉ p := by
  induction t generalizing p with
  | nil => simp [List.prefix_nil.1 hp]
  | cons c rest ih =>
    rw [cutComment] at hp
    split at hp
    · simp [List.prefix_nil.1 hp]
    · rename_i hc
      cases p with
      | nil => simp
      | cons d p =>
        obtain ⟨rfl, hp⟩ := List.cons_prefix_cons.1 hp
        obtain ⟨hsingle, hdouble⟩ := hquotes d List.mem_cons_self
        simp only [hsingle, hdouble, false_and, if_false] at hp
        have hd : '#' ≠ d := by
          rintro rfl
          exact hc ⟨rfl, by decide, by decide⟩
        simp only [List.mem_cons, not_or]
        exact ⟨hd, ih hp fun e he => hquotes e (List.mem_cons_of_mem d he)⟩

theorem splitValue_eq (t : Text) : splitValue t =
    (trim (cutComment false false t).1, trim ((cutComment false false t).2.getD [])) :=
  rfl

/-- White space around a value and its comment does not count. -/
theorem splitValue_trim (t : Text) : splitValue (trim t) = splitValue t := by
  obtain ⟨l, r, hl, hr, ht⟩ := exists_trim t
  have hplain : ∀ {b : Text}, (∀ c ∈ b, isBlank c = true) → NoQuotes b ∧ '#' ∉ b := fun hb => by
    refine ⟨fun c hc => ?_, fun hc => absurd (hb _ hc) (by decide)⟩
    constructor <;> rintro rfl <;> exact absurd (hb _ hc) (by decide)
  have hcut : cutComment false false t =
      (l ++ (cutComment false false (trim t ++ r)).1, (cutComment false false (trim t ++ r)).2) := by
    rw [← cutComment_append (hplain hl).1 (.inr (.inr (hplain hl).2)), ← ht]
  rw [splitValue_eq, splitValue_eq, hcut, cutComment_append_of_plain (hplain hr).1 (hplain hr).2,
    trim_prepend_of_blank hl]
  cases cutComment false false (trim t) with
  | mk value comment =>
    cases comment with
    | none => simp only [trim_append_of_blank hr]
    | some comment => simp only [Option.getD_some, trim_append_of_blank hr]

/-! ## Quotes -/

theorem eq_of_between? {mark : Char} {t inner : Text} (h : between? mark t = some inner) :
    t = mark :: (inner ++ [mark]) := by
  unfold between? at h
  split at h
  · cases h
  · rename_i c rest
    split at h
    · rename_i hc
      cases h
      rw [hc.1, List.dropLast_append_getLast? mark hc.2]
    · cases h

theorem eq_of_unwrap {quote : Quote} {value inner : Text} (h : unwrap value = (quote, inner)) :
    value = quote.wrap inner := by
  unfold unwrap at h
  split at h
  · rename_i hdouble
    cases h
    exact eq_of_between? hdouble
  · split at h
    · rename_i hsingle
      cases h
      exact eq_of_between? hsingle
    · cases h
      rfl

theorem between?_of_head {mark : Char} {t : Text} (h : ∀ c, t.head? = some c → c ≠ mark) :
    between? mark t = none := by
  unfold between?
  split
  · rfl
  · rename_i c rest
    exact if_neg fun hc => h c rfl hc.1

/-- What is put in quotes is what is between them. -/
theorem unwrap_wrap {quote : Quote} {inner : Text}
    (h : quote = .bare → ∀ c, inner.head? = some c → c ≠ '\'' ∧ c ≠ '"') :
    unwrap (quote.wrap inner) = (quote, inner) := by
  cases quote with
  | bare =>
    rw [Quote.wrap, unwrap, between?_of_head fun c hc => (h rfl c hc).2,
      between?_of_head fun c hc => (h rfl c hc).1]
  | single =>
    have hdouble : between? '"' (between '\'' inner) = none :=
      between?_of_head fun c hc => by
        obtain rfl : '\'' = c := by simpa [between] using hc
        decide
    rw [Quote.wrap, unwrap, hdouble]
    simp [between?, between]
  | double =>
    rw [Quote.wrap, unwrap]
    simp [between?, between]

/-! ## The action and its reference -/

/-- The path of an action is what the action was read from. -/
theorem fullPath_of_action? {path : Text} {a : Action} (h : action? path = some a) :
    a.fullPath = path := by
  have hjoin : ['/'].intercalate (path.splitOn '/') = path := List.intercalate_splitOn '/'
  unfold action? at h
  split at h
  · rename_i owner repo more hsplit
    split at h
    · cases h
    · cases h
      rw [hsplit] at hjoin
      cases more with
      | nil =>
        rw [← hjoin]
        simp [Action.fullPath, Action.repository, List.intercalate]
      | cons m more =>
        rw [← hjoin]
        simp [Action.fullPath, Action.repository, Text.join, List.intercalate]
  · cases h

theorem fullPath_ne_nil (a : Action) : a.fullPath ≠ [] := by
  unfold Action.fullPath
  cases a.subpath <;> simp [Action.repository]

/-- The starts of values that are no actions. -/
def foreignStarts : List Text :=
  ["./".toList, "../".toList, "/".toList, "docker://".toList]

theorem isForeign_eq_false_iff {value : Text} : isForeign value = false ↔
    ¬['$', '{', '{'] <:+: value ∧ ∀ start ∈ foreignStarts, ¬start <+: value := by
  rw [isForeign, ← Bool.not_eq_true]
  simp only [Bool.or_eq_true, contains_iff, List.isPrefixOf_iff_prefix, foreignStarts,
    List.forall_mem_cons, not_or, and_assoc, List.not_mem_nil, false_imp_iff, implies_true,
    and_true]

/-- A text without a mark that occurs around it occurs on one side of it. -/
theorem infix_of_infix_append_cons {needle a b : Text} {mark : Char} (hmark : mark ∉ needle)
    (h : needle <:+: a ++ mark :: b) : needle <:+: a ∨ needle <:+: b := by
  obtain ⟨s, t, heq⟩ := h
  rcases List.append_eq_append_iff.1 heq with ⟨l, ha, -⟩ | ⟨l, hl, hb⟩
  · exact .inl ⟨s, l, ha.symm⟩
  · cases l with
    | nil => exact .inl ⟨s, [], by simpa using hl⟩
    | cons c l =>
      obtain ⟨rfl, rfl⟩ := List.cons.inj hb
      rcases List.append_eq_append_iff.1 hl with ⟨k, ha, hk⟩ | ⟨k, hs, hk⟩
      · exact absurd (hk ▸ List.mem_append_right k List.mem_cons_self) hmark
      · cases k with
        | nil =>
          rw [List.nil_append] at hk
          exact absurd (hk ▸ List.mem_cons_self) hmark
        | cons d k =>
          obtain ⟨rfl, rfl⟩ := List.cons.inj hk
          exact .inr ⟨k, t, rfl⟩

theorem prefix_of_prefix_append_cons {start a b : Text} {mark : Char} (hmark : mark ∉ start)
    (h : start <+: a ++ mark :: b) : start <+: a := by
  by_cases hlength : start.length ≤ a.length
  · exact List.prefix_of_prefix_length_le h (List.prefix_append _ _) hlength
  · have ha : a ++ [mark] <+: start :=
      List.prefix_of_prefix_length_le (by simp) h (by simp; omega)
    exact absurd (ha.subset (by simp)) hmark

/-- Whether a value is foreign does not depend on its reference. -/
theorem isForeign_congr {path reference reference' : Text}
    (h : isForeign (path ++ '@' :: reference) = false) (hdollar : '$' ∉ reference') :
    isForeign (path ++ '@' :: reference') = false := by
  rw [isForeign_eq_false_iff] at h ⊢
  refine ⟨fun hinfix => ?_, fun start hstart hprefix => ?_⟩
  · rcases infix_of_infix_append_cons (by decide) hinfix with hpath | hreference
    · exact h.1 (hpath.trans (List.prefix_append _ _).isInfix)
    · exact hdollar (hreference.subset List.mem_cons_self)
  · have hat : ∀ start ∈ foreignStarts, '@' ∉ start := by decide
    exact h.2 start hstart
      ((prefix_of_prefix_append_cons (hat start hstart) hprefix).trans (List.prefix_append _ _))

theorem target?_eq_some_iff {value : Text} {a : Action} {reference : Text} :
    target? value = some (a, reference) ↔
      isForeign value = false ∧ value = a.fullPath ++ '@' :: reference ∧ '@' ∉ reference ∧
        reference ≠ [] ∧ action? a.fullPath = some a := by
  constructor
  · intro h
    unfold target? at h
    split at h
    · cases h
    rename_i hforeign
    obtain ⟨⟨path, reference'⟩, hcut, h⟩ := Option.bind_eq_some_iff.1 h
    simp only at h
    split at h
    · cases h
    rename_i hne
    obtain ⟨a', haction, h⟩ := Option.bind_eq_some_iff.1 h
    cases h
    obtain ⟨hvalue, hat⟩ := eq_of_cutLast? hcut
    have hpath := fullPath_of_action? haction
    rw [hpath]
    exact ⟨by simpa using hforeign, hvalue, hat, by simpa using hne, haction⟩
  · rintro ⟨hforeign, rfl, hat, hne, haction⟩
    unfold target?
    simp [hforeign, cutLast?_append hat, hne, haction]

/-! ## Reading a line -/

/-- A usage is read from a line: what follows the keyword, the value without its quotes, and the
reference as it is written. -/
structure IsRead (line : Text) (u : Usage) (after inner reference : Text) : Prop where
  cut : cut? keyword line = some (u.indent, after)
  separator : u.separator = after.takeWhile isSeparator
  value : splitValue (trim (after.dropWhile isSeparator)) = (u.quote.wrap inner, u.comment)
  nonempty : u.quote.wrap inner ≠ []
  unwrapped : unwrap (u.quote.wrap inner) = (u.quote, inner)
  target : target? inner = some (u.action, reference)
  reference : u.reference = lowercase reference
  line : u.line = 0

theorem parse?_eq_some_iff {line : Text} {u : Usage} :
    parse? line = some u ↔ ∃ after inner reference, IsRead line u after inner reference := by
  constructor
  · intro h
    unfold parse? at h
    obtain ⟨⟨indent, after⟩, hcut, h⟩ := Option.bind_eq_some_iff.1 h
    cases hvalue : splitValue (trim (after.dropWhile isSeparator)) with
    | mk value comment =>
      simp only [hvalue] at h
      split at h
      · cases h
      rename_i hne
      cases hunwrap : unwrap value with
      | mk quote inner =>
        simp only [hunwrap] at h
        obtain ⟨⟨action, reference⟩, htarget, h⟩ := Option.bind_eq_some_iff.1 h
        cases h
        have hwrap := eq_of_unwrap hunwrap
        refine ⟨after, inner, reference, hcut, rfl, ?_, ?_, ?_, htarget, rfl, rfl⟩
        · rw [hvalue, hwrap]
        · rw [← hwrap]
          simpa using hne
        · rw [← hwrap, hunwrap]
  · rintro ⟨after, inner, reference, h⟩
    unfold parse?
    rw [h.cut]
    simp only [Option.bind_eq_bind, Option.bind_some, h.value, h.unwrapped]
    rw [if_neg (by simpa using h.nonempty)]
    simp only [Option.bind_some, h.target, ← h.separator, ← h.reference, ← h.line]

theorem mem_of_mem_cutComment {single double : Bool} {t : Text} {c : Char}
    (h : c ∈ (cutComment single double t).1 ∨ c ∈ (cutComment single double t).2.getD []) :
    c ∈ t := by
  induction t generalizing single double with
  | nil => simp [cutComment] at h
  | cons d rest ih =>
    rw [cutComment] at h
    split at h
    · exact List.mem_cons_of_mem d (h.resolve_left (by simp))
    · simp only [List.mem_cons] at h ⊢
      rcases h with (rfl | h) | h
      · exact .inl rfl
      · exact .inr (ih (.inl h))
      · exact .inr (ih (.inr h))

/-- The parts of a usage stand on its line. -/
theorem mem_of_parse? {line : Text} {u : Usage} (h : parse? line = some u) {c : Char}
    (hc : c ∈ u.indent ∨ c ∈ u.action.fullPath ∨ c ∈ u.comment) : c ∈ line := by
  obtain ⟨after, inner, reference, h⟩ := parse?_eq_some_iff.1 h
  rw [eq_of_cut? h.cut, List.mem_append, List.mem_append]
  rcases hc with hc | hc
  · exact .inl hc
  have hafter : ∀ {d : Char}, d ∈ trim (after.dropWhile isSeparator) → d ∈ after := fun hd =>
    (List.dropWhile_suffix _).subset (mem_of_mem_trim hd)
  have hvalue := h.value
  rw [splitValue, Prod.mk.injEq] at hvalue
  right; right
  rcases hc with hc | hc
  · have hinner : c ∈ u.quote.wrap inner := by
      rw [(target?_eq_some_iff.1 h.target).2.1]
      cases u.quote <;> simp [Quote.wrap, between, hc]
    rw [← hvalue.1] at hinner
    exact hafter (mem_of_mem_cutComment (.inl (mem_of_mem_trim hinner)))
  · rw [← hvalue.2] at hc
    exact hafter (mem_of_mem_cutComment (.inr (mem_of_mem_trim hc)))

theorem isTrimmed_comment_of_parse? {line : Text} {u : Usage} (h : parse? line = some u) :
    IsTrimmed u.comment := by
  obtain ⟨after, inner, reference, h⟩ := parse?_eq_some_iff.1 h
  have hvalue := h.value
  rw [splitValue, Prod.mk.injEq] at hvalue
  rw [← hvalue.2]
  exact isTrimmed_trim _

theorem line_of_parse? {line : Text} {u : Usage} (h : parse? line = some u) : u.line = 0 := by
  obtain ⟨after, inner, reference, h⟩ := parse?_eq_some_iff.1 h
  exact h.line

theorem reference_ne_nil_of_parse? {line : Text} {u : Usage} (h : parse? line = some u) :
    u.reference ≠ [] := by
  obtain ⟨after, inner, reference, h⟩ := parse?_eq_some_iff.1 h
  rw [h.reference, Ne, lowercase_eq_nil_iff]
  exact (target?_eq_some_iff.1 h.target).2.2.2.1

/-- White space at the end of a line does not count, unless it could stand after the keyword. -/
theorem parse?_append_blank {b : Char} (hblank : isBlank b = true) (hb : isSeparator b = false)
    (line : Text) : parse? (line ++ [b]) = parse? line := by
  have hkeyword : b ∉ keyword := by
    have hblanks : NoBlanks keyword := by decide
    intro hmem
    rw [hblanks b hmem] at hblank
    cases hblank
  unfold parse?
  cases hcut : cut? keyword line with
  | none =>
    have hnone : cut? keyword (line ++ [b]) = none := by
      rw [← Option.not_isSome_iff_eq_none, ← contains, contains_iff]
      intro hinfix
      rcases infix_of_infix_append_cons hkeyword hinfix with h | h
      · rw [← contains_iff, contains, hcut] at h
        cases h
      · exact absurd (h.subset (by decide : 'u' ∈ keyword)) (by simp)
    rw [hnone]
  | some p =>
    obtain ⟨indent, after⟩ := p
    have hsome : cut? keyword (line ++ [b]) = some (indent, after ++ [b]) := by
      rw [eq_of_cut? hcut, List.append_assoc, List.append_assoc]
      exact cut?_append (by decide) hcut _
    have htake : (after ++ [b]).takeWhile isSeparator = after.takeWhile isSeparator := by
      exact takeWhile_append_of_neg hb after []
    have hdrop : trim ((after ++ [b]).dropWhile isSeparator) =
        trim (after.dropWhile isSeparator) := by
      rw [List.dropWhile_append]
      split
      · rename_i hempty
        rw [List.isEmpty_iff.1 hempty, List.dropWhile_cons_of_neg (by simp [hb])]
        exact trim_append_of_blank (r := [b]) (by simpa using hblank) []
      · exact trim_append_of_blank (by simpa using hblank) _
    rw [hsome]
    simp only [Option.bind_eq_bind, Option.bind_some, htake, hdrop]

/-! ## Writing a line -/

/-- The separator that is written. -/
def writtenSeparator (u : Usage) : Text := if u.separator.isEmpty then [' '] else u.separator

/-- Whether there is no line feed in the parts of a usage. -/
structure OneLine (u : Usage) : Prop where
  indent : '\n' ∉ u.indent
  path : '\n' ∉ u.action.fullPath
  comment : '\n' ∉ u.comment

theorem oneLine_of_parse? {line : Text} {u : Usage} (h : parse? line = some u)
    (hline : '\n' ∉ line) : u.OneLine where
  indent hmem := hline (mem_of_parse? h (.inl hmem))
  path hmem := hline (mem_of_parse? h (.inr (.inl hmem)))
  comment hmem := hline (mem_of_parse? h (.inr (.inr hmem)))

/-- What is known about the parts of a usage that are written again. -/
structure Readable (u : Usage) : Prop where
  /-- The keyword after the indent is the first one. -/
  indent : ∀ after, cut? keyword (u.indent ++ (keyword ++ after)) = some (u.indent, after)
  separator : ∀ c ∈ u.separator, isSeparator c = true
  action : action? u.action.fullPath = some u.action
  quotes : NoQuotes u.action.fullPath
  foreign : ∃ reference, isForeign (u.action.fullPath ++ '@' :: reference) = false
  /-- Without quotes there is nothing to hide a number sign or white space. -/
  bare : u.quote = .bare → '#' ∉ u.action.fullPath ∧
    ∀ c, u.action.fullPath.head? = some c → isBlank c = false

theorem readable_of_parse? {line : Text} {u : Usage} (h : parse? line = some u)
    (hquotes : NoQuotes u.action.fullPath) : u.Readable := by
  obtain ⟨after, inner, reference, h⟩ := parse?_eq_some_iff.1 h
  obtain ⟨hforeign, hinner, -, -, haction⟩ := target?_eq_some_iff.1 h.target
  refine ⟨cut?_append (by decide) h.cut, fun c hc => ?_, haction, hquotes, ⟨reference, ?_⟩,
    fun hbare => ?_⟩
  · rw [h.separator] at hc
    exact List.mem_takeWhile_imp hc
  · rw [← hinner]
    exact hforeign
  have hvalue := congrArg Prod.fst h.value
  rw [hbare] at hvalue
  simp only [splitValue, Quote.wrap] at hvalue
  constructor
  · -- the path stands in front of the comment, after some white space
    obtain ⟨l, r, hl, -, hlr⟩ := exists_trim
      (cutComment false false (trim (after.dropWhile isSeparator))).1
    rw [hvalue, hinner] at hlr
    have hnoquotes : NoQuotes (l ++ u.action.fullPath) := by
      intro c hc
      rcases List.mem_append.1 hc with hc | hc
      · have hblank := hl c hc
        constructor <;> rintro rfl <;> revert hblank <;> decide
      · exact hquotes c hc
    have hprefix : l ++ u.action.fullPath <+:
        (cutComment false false (trim (after.dropWhile isSeparator))).1 := by
      rw [hlr]
      exact ⟨'@' :: reference ++ r, by simp⟩
    exact fun hmem => hash_not_mem_of_prefix hprefix hnoquotes (List.mem_append_right l hmem)
  · intro c hc
    refine (isTrimmed_trim
      (cutComment false false (trim (after.dropWhile isSeparator))).1).1 c ?_
    rw [hvalue, hinner, List.head?_append_of_ne_nil _ (fullPath_ne_nil _)]
    exact hc

theorem isSeparator_of_mem_writtenSeparator {u : Usage} (hu : u.Readable) {c : Char}
    (h : c ∈ u.writtenSeparator) : isSeparator c = true := by
  rw [writtenSeparator] at h
  split at h
  · rw [List.mem_singleton.1 h]
    decide
  · exact hu.separator c h

theorem not_isSeparator {c : Char} (h : isBlank c = false) : isSeparator c = false := by
  rw [isSeparator, Bool.or_eq_false_iff, decide_eq_false_iff_not, decide_eq_false_iff_not]
  constructor <;> rintro rfl <;> revert h <;> decide

/-- The value that is written has no white space at its ends. -/
theorem isTrimmed_wrap {quote : Quote} {path reference : Text} (hpath : path ≠ [])
    (hhead : quote = .bare → ∀ c, path.head? = some c → isBlank c = false)
    (hne : reference ≠ []) (hreference : ∀ c ∈ reference, isOrdinary c = true) :
    IsTrimmed (quote.wrap (path ++ '@' :: reference)) := by
  have hquoted : ∀ mark, isBlank mark = false →
      IsTrimmed (between mark (path ++ '@' :: reference)) := by
    intro mark hmark
    rw [between, ← List.singleton_append]
    refine isTrimmed_append (by simp) (by simp) ?_ ?_
    · intro c hc
      cases hc
      exact hmark
    · intro c hc
      rw [List.getLast?_append_of_ne_nil _ (List.cons_ne_nil mark [])] at hc
      cases hc
      exact hmark
  cases quote with
  | single => exact hquoted '\'' (by decide)
  | double => exact hquoted '"' (by decide)
  | bare =>
    refine isTrimmed_append hpath (by simp) (hhead rfl) fun c hc => ?_
    rw [List.getLast?_cons_of_ne_nil hne] at hc
    exact isBlank_of_isOrdinary (hreference c (List.mem_of_getLast? hc))

/-- What is written after the value. -/
def writtenComment (comment : Text) : Text :=
  if comment.isEmpty then [] else " # ".toList ++ comment

theorem render_eq (u : Usage) (reference comment : Text) :
    u.render reference comment = u.indent ++ (keyword ++ (u.writtenSeparator ++
      (u.quote.wrap (u.action.fullPath ++ '@' :: lowercase reference) ++
        writtenComment comment))) := by
  rw [render, writtenSeparator, writtenComment]
  split <;> simp only [List.append_assoc, List.append_nil]

/-- The value and the comment are told apart again. -/
theorem splitValue_written {quote : Quote} {inner : Text} (htrim : IsTrimmed (quote.wrap inner))
    (hquotes : NoQuotes inner) (hhash : quote = .bare → '#' ∉ inner) (comment : Text) :
    splitValue (quote.wrap inner ++ writtenComment comment) =
      (quote.wrap inner, trim comment) := by
  rw [splitValue_eq, cutComment_wrap hquotes hhash, writtenComment]
  by_cases hempty : comment = []
  · rw [if_pos (by simpa using hempty), hempty]
    simp [cutComment, trim_of_isTrimmed htrim]
  · have hcut : cutComment false false (" # ".toList ++ comment) = ([' '], some (' ' :: comment)) :=
      rfl
    have hspace : ∀ c ∈ [' '], isBlank c = true := List.forall_mem_singleton.2 (by decide)
    rw [if_neg (by simpa using hempty), hcut, Option.getD_some, trim_append_of_blank hspace,
      trim_of_isTrimmed htrim, ← List.singleton_append, trim_prepend_of_blank hspace]

/-- A reference and a comment that the reader of a line does not take for something else. -/
structure Writable (reference comment : Text) : Prop where
  nonempty : lowercase reference ≠ []
  ordinary : ∀ c ∈ lowercase reference, isOrdinary c = true
  trimmed : IsTrimmed comment
  unbroken : '\n' ∉ comment

/-- **A line that is written is read back** as the usage with the new reference and comment, up to
white space around the comment. -/
theorem parse?_render_trim {u : Usage} (hu : u.Readable) {reference : Text}
    (hne : lowercase reference ≠ []) (hreference : ∀ c ∈ lowercase reference, isOrdinary c = true)
    (comment : Text) :
    parse? (u.render reference comment) =
      some { u with
        line := 0
        separator := u.writtenSeparator
        reference := lowercase reference
        comment := trim comment } := by
  have hmarks : ∀ {c}, isOrdinary c = false → c ∉ lowercase reference := fun h hmem => by
    rw [hreference _ hmem] at h
    cases h
  have hseparator : ∀ c ∈ u.writtenSeparator, isSeparator c = true := fun _ =>
    isSeparator_of_mem_writtenSeparator hu
  have hinner : NoQuotes (u.action.fullPath ++ '@' :: lowercase reference) := by
    intro c hc
    rcases List.mem_append.1 hc with hc | hc
    · exact hu.quotes c hc
    · constructor <;> rintro rfl <;>
        exact hmarks (by decide) ((List.mem_cons.1 hc).resolve_left (by decide))
  have hhash : u.quote = .bare → '#' ∉ u.action.fullPath ++ '@' :: lowercase reference := by
    intro hbare hmem
    rcases List.mem_append.1 hmem with hmem | hmem
    · exact (hu.bare hbare).1 hmem
    · exact hmarks (by decide) ((List.mem_cons.1 hmem).resolve_left (by decide))
  have htrim := isTrimmed_wrap (fullPath_ne_nil u.action) (fun hbare => (hu.bare hbare).2) hne
    hreference
  have hvalue : u.quote.wrap (u.action.fullPath ++ '@' :: lowercase reference) ≠ [] := by
    cases u.quote <;> simp [Quote.wrap, between]
  have hspan := span_append (r := u.quote.wrap (u.action.fullPath ++ '@' :: lowercase reference) ++
      writtenComment comment) hseparator fun c hc =>
    not_isSeparator (htrim.1 c (by rwa [List.head?_append_of_ne_nil _ hvalue] at hc))
  obtain ⟨old, hforeign⟩ := hu.foreign
  refine parse?_eq_some_iff.2 ⟨u.writtenSeparator ++
    (u.quote.wrap (u.action.fullPath ++ '@' :: lowercase reference) ++ writtenComment comment),
    u.action.fullPath ++ '@' :: lowercase reference, lowercase reference, ?_⟩
  refine ⟨by rw [render_eq]; exact hu.indent _, hspan.1.symm, ?_, hvalue, ?_, ?_, ?_, rfl⟩
  · rw [hspan.2, splitValue_trim, splitValue_written htrim hinner hhash]
  · exact unwrap_wrap fun _ c hc => hinner c (List.mem_of_head? hc)
  · exact target?_eq_some_iff.2 ⟨isForeign_congr hforeign (hmarks (by decide)), rfl,
      hmarks (by decide), hne, hu.action⟩
  · exact (lowercase_lowercase reference).symm

theorem parse?_render_of_ordinary {u : Usage} (hu : u.Readable) {reference comment : Text}
    (hne : lowercase reference ≠ []) (hreference : ∀ c ∈ lowercase reference, isOrdinary c = true)
    (hcomment : IsTrimmed comment) :
    parse? (u.render reference comment) =
      some { u with
        line := 0
        separator := u.writtenSeparator
        reference := lowercase reference
        comment } := by
  rw [parse?_render_trim hu hne hreference, trim_of_isTrimmed hcomment]

/-- A line that is written again as it was has the pin that it had. -/
theorem pin_of_render_eq {line : Text} {u : Usage} (h : parse? line = some u)
    (hquotes : NoQuotes u.action.fullPath) {reference comment : Text}
    (hne : lowercase reference ≠ []) (hreference : ∀ c ∈ lowercase reference, isOrdinary c = true)
    (hsame : u.render reference comment = line) :
    u.reference = lowercase reference ∧ u.comment = trim comment := by
  have hread := parse?_render_trim (readable_of_parse? h hquotes) hne hreference comment
  rw [hsame, h, Option.some_inj] at hread
  exact ⟨congrArg Usage.reference hread, congrArg Usage.comment hread⟩

theorem parse?_render {u : Usage} (hu : u.Readable) {reference comment : Text}
    (h : Writable reference comment) :
    parse? (u.render reference comment) =
      some { u with
        line := 0
        separator := u.writtenSeparator
        reference := lowercase reference
        comment } :=
  parse?_render_of_ordinary hu h.nonempty h.ordinary h.trimmed

/-- What is written is one line. -/
theorem not_mem_render {u : Usage} (hu : u.Readable) (hline : u.OneLine)
    {reference comment : Text} (h : Writable reference comment) :
    '\n' ∉ u.render reference comment := by
  have hindent := hline.indent
  have hpath := hline.path
  have hseparator : '\n' ∉ u.writtenSeparator := fun hmem =>
    absurd (isSeparator_of_mem_writtenSeparator hu hmem) (by decide)
  have hreference : '\n' ∉ lowercase reference := fun hmem =>
    absurd (h.ordinary _ hmem) (by decide)
  have hvalue : '\n' ∉ u.quote.wrap (u.action.fullPath ++ '@' :: lowercase reference) := by
    cases u.quote <;> simp [Quote.wrap, between, hpath, hreference]
  have hcomment : '\n' ∉ writtenComment comment := by
    rw [writtenComment]
    split
    · simp
    · simpa using h.unbroken
  have hkeyword : '\n' ∉ keyword := by decide
  rw [render_eq]
  simp only [List.mem_append, not_or]
  exact ⟨hindent, hkeyword, hseparator, hvalue, hcomment⟩

end Usage

end PinnedActions
