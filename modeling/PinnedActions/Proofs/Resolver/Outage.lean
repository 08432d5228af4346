import PinnedActions.Http.Client
import PinnedActions.Proofs.Catalog.Answered
import PinnedActions.Proofs.Resolver.Closed
import Mathlib.Data.List.Forall2

/-!
# No failure is masked

A resolver goes on after a question that the catalog has no answer to: to the next spelling of a
version, to the next listing, to the newest tag.  It must not go on after any other failure, or an
outage would look like a version that does not exist.

* `Endpoint.failure?` — in what the fetch of an endpoint fails, be it the catalog that fails or the
  answer that cannot be read.
* `Candid` — all that the fetches of a call and its result can be: no fetch failed in earnest, or the
  last one did and the call ends in that failure.
* `closed_reports` — the walks of a resolver are candid, whatever is remembered.
* `Follows`, `closed_follows` — unless a walk ends in a failure in earnest, it does not depend on what
  the catalog says where it fails in earnest.  So a call that does not end has met no such failure.
* `no_failure_is_masked` — what that says about every call.
-/

set_option autoImplicit false

namespace PinnedActions

/-! ## How a fetch fails -/

/-- Whether a failure is one that a fetch can end in. -/
def Failure.isOfFetch : Failure → Bool
  | notFound _ | http .. | transport _ | decode .. => true
  | _ => false

theorem Failure.isExhausted_of_isOfFetch {f : Failure} (h : f.isOfFetch = true) :
    f.isExhausted = false := by
  cases f <;> first | rfl | cases h

/-- Whether a catalog only fails as a fetch can. -/
def Catalog.FailsToFetch (catalog : Catalog) : Prop :=
  ∀ path f, catalog path = .error f → f.isOfFetch = true

namespace Client

theorem isOfFetch_of_request? {c : Client} {path : Text} {f : Failure}
    (h : c.request? path = .error f) : f.isOfFetch = true := by
  rw [request?] at h
  dsimp only at h
  split at h
  · cases h
    rfl
  · split at h <;> cases h
    rfl

theorem isOfFetch_of_answer {c : Client} {path : Text} {u : Url} {reply : Reply} {f : Failure}
    (h : c.answer path u reply = .error f) : f.isOfFetch = true := by
  cases reply with
  | silence =>
    cases h
    rfl
  | response status body =>
    rw [answer] at h
    split at h
    · cases h
      rfl
    · split at h
      · cases h
        rfl
      · split at h <;> cases h
        rfl

/-- **A catalog on a network only fails as a fetch can.** -/
theorem failsToFetch_catalog (c : Client) (network : Network) :
    (c.catalog network).FailsToFetch := by
  intro path f h
  rw [catalog] at h
  split at h
  · rename_i hrequest
    cases h
    exact isOfFetch_of_request? hrequest
  · exact isOfFetch_of_answer h

end Client

/-- What the answer about an endpoint is read as. -/
inductive Record where
  | object
  | releases
  | tags
  | release

namespace Record

/-- The record for a path, by the part of it after the repository. -/
def ofSuffix (t : Text) : Record :=
  if t.head? = some 'g' then object
  else if t.head? = some 't' then tags
  else if t[8]? = some '?' then releases
  else release

/-- The failure in a result. -/
def failureOf {α : Type} : Except Failure α → Option Failure
  | .error f => some f
  | .ok _ => none

/-- In what it fails to fetch a path and read the answer. -/
def failure? (source : Source) (path : Text) : Record → Option Failure
  | object => failureOf (Walk.reply source path Payload.gitReference)
  | releases => failureOf (Walk.reply source path Payload.releases)
  | tags => failureOf (Walk.reply source path Payload.tags)
  | release => failureOf (Walk.reply source path Payload.release)

end Record

namespace Endpoint

/-- What the answer about an endpoint is read as. -/
def record : Endpoint → Record
  | tagReference _ | tagObject _ => .object
  | releases _ => .releases
  | tags _ | newestTag => .tags
  | latestRelease => .release

/-- In what the fetch of an endpoint fails, if it does. -/
def failure? (source : Source) (owner repo : Text) (e : Endpoint) : Option Failure :=
  e.record.failure? source (e.path owner repo)

theorem ofSuffix_suffix (e : Endpoint) : Record.ofSuffix e.suffix = e.record := by
  cases e <;> rfl

/-- **A path fails in one way**, whichever endpoint it is taken to be of. -/
theorem failure?_eq_of_path_eq {source : Source} {owner repo : Text} {e e' : Endpoint}
    (h : e.path owner repo = e'.path owner repo) :
    e.failure? source owner repo = e'.failure? source owner repo := by
  rw [failure?, failure?, ← ofSuffix_suffix e, ← ofSuffix_suffix e', suffix_eq_of_path_eq h, h]

end Endpoint

namespace Resolver

open Walk

variable {source : Source} {owner repo : Text} {s t u : Session} {α β : Type}

theorem failure?_of_readWith {e : Endpoint} {read : Json → Except Mismatch α}
    (h : ReadWith e read) : e.failure? source owner repo =
      Record.failureOf (reply source (e.path owner repo) read) := by
  cases h <;> rfl

theorem isOfFetch_of_failure? (hcatalog : source.catalog.FailsToFetch) {e : Endpoint} {f : Failure}
    (h : e.failure? source owner repo = some f) : f.isOfFetch = true := by
  have hread : ∀ {α : Type} (read : Json → Except Mismatch α),
      Record.failureOf (reply source (e.path owner repo) read) = some f → f.isOfFetch = true := by
    intro α read h
    rw [reply] at h
    split at h
    · rename_i hanswer
      cases h
      exact hcatalog _ _ hanswer
    · split at h <;> cases h
      rfl
  rw [Endpoint.failure?] at h
  cases hrecord : e.record <;> rw [hrecord] at h <;> exact hread _ h

/-! ## Candid calls -/

/-- Whether a fetch succeeded, or failed because there is nothing to be found. -/
def Harmless (outcome : Option Failure) : Prop := ∀ f, outcome = some f → f.isNotFound = true

/-- All that the outcomes of the fetches of a call, in order, and its result can be. -/
inductive Candid : List (Option Failure) → Except Failure α → Prop where
  | untroubled {outcomes : List (Option Failure)} {r : Except Failure α}
      (h : ∀ outcome ∈ outcomes, Harmless outcome) : Candid outcomes r
  | stopped {outcomes : List (Option Failure)} {f : Failure}
      (h : ∀ outcome ∈ outcomes, Harmless outcome) (hf : f.isNotFound = false) :
      Candid (outcomes ++ [some f]) (.error f)

namespace Candid

variable {outcomes outcomes' : List (Option Failure)}

theorem harmless_of_ok {a : α} (h : Candid outcomes (.ok a : Except Failure α)) :
    ∀ outcome ∈ outcomes, Harmless outcome := by
  cases h with
  | untroubled h => exact h

/-- A failure ends whatever it is part of. -/
theorem of_error {f : Failure} (h : Candid outcomes (.error f : Except Failure α)) :
    Candid outcomes (.error f : Except Failure β) := by
  cases h with
  | untroubled h => exact .untroubled h
  | stopped h hf => exact .stopped h hf

/-- What comes after a value comes after harmless fetches. -/
theorem append {a : α} {r : Except Failure β} (h : Candid outcomes (.ok a : Except Failure α))
    (h' : Candid outcomes' r) : Candid (outcomes ++ outcomes') r := by
  have hfirst := h.harmless_of_ok
  cases h' with
  | untroubled hrest =>
    exact .untroubled fun o ho => (List.mem_append.1 ho).elim (hfirst o) (hrest o)
  | stopped hrest hf =>
    rw [← List.append_assoc]
    exact .stopped (fun o ho => (List.mem_append.1 ho).elim (hfirst o) (hrest o)) hf

/-- **A failure in earnest is the last thing that happens**, and it is the result. -/
theorem last {r : Except Failure α} (h : Candid outcomes r) {before after : List (Option Failure)}
    {f : Failure} (hsplit : outcomes = before ++ some f :: after) (hf : f.isNotFound = false) :
    after = [] ∧ r = .error f := by
  have hmem : some f ∈ outcomes := hsplit ▸ List.mem_append_right before List.mem_cons_self
  have hharmful : ¬Harmless (some f) := fun h => by
    rw [h f rfl] at hf
    cases hf
  cases h with
  | untroubled h => exact absurd (h _ hmem) hharmful
  | @stopped init g h hg =>
    rcases List.eq_nil_or_concat after with rfl | ⟨between, last, rfl⟩
    · obtain ⟨-, hlast⟩ := List.append_inj' hsplit rfl
      cases hlast
      exact ⟨rfl, rfl⟩
    · rw [List.concat_eq_append, ← List.cons_append, ← List.append_assoc] at hsplit
      obtain ⟨rfl, -⟩ := List.append_inj' hsplit rfl
      exact absurd (h _ (List.mem_append_right before List.mem_cons_self)) hharmful

end Candid

/-! ## Candid walks -/

/-- Whether some endpoints are what was fetched between two sessions, in this order. -/
def Asked (owner repo : Text) (s t : Session) (asked : List Endpoint) : Prop :=
  t.fetched = (asked.map (Endpoint.path owner repo)).reverse ++ s.fetched

theorem Asked.trans {asked asked' : List Endpoint} (h : Asked owner repo s t asked)
    (h' : Asked owner repo t u asked') : Asked owner repo s u (asked ++ asked') := by
  rw [Asked] at *
  rw [h', h, List.map_append, List.reverse_append, List.append_assoc]

/-- Endpoints that were fetched between the same sessions fail alike. -/
theorem Asked.map_failure?_eq {asked asked' : List Endpoint} (h : Asked owner repo s t asked)
    (h' : Asked owner repo s t asked') :
    asked.map (Endpoint.failure? source owner repo) =
      asked'.map (Endpoint.failure? source owner repo) := by
  have hpaths : asked.map (Endpoint.path owner repo) = asked'.map (Endpoint.path owner repo) :=
    List.reverse_injective (List.append_cancel_right (h.symm.trans h'))
  rw [← List.forall₂_eq_eq_eq, List.forall₂_map_left_iff, List.forall₂_map_right_iff] at hpaths ⊢
  exact hpaths.imp fun _ _ => Endpoint.failure?_eq_of_path_eq

/-- Whether the fetches and the results of a walk for a repository are candid. -/
def Reports (source : Source) (owner repo : Text) (w : Walk α) : Prop :=
  ∀ s r t, w.runFrom s = some (r, t) → ∃ asked, Asked owner repo s t asked ∧
    Candid (asked.map (Endpoint.failure? source owner repo)) r

namespace Reports

/-- A walk that ends where it starts asks for nothing. -/
theorem of_still {w : Walk α} (h : ∀ s r t, w.runFrom s = some (r, t) → t = s) :
    Reports source owner repo w := by
  intro s r t hrun
  obtain rfl := h s r t hrun
  exact ⟨[], rfl, .untroubled nofun⟩

theorem fetch {e : Endpoint} {read : Json → Except Mismatch α} (hread : ReadWith e read) :
    Reports source owner repo (Walk.fetch source (e.path owner repo) read) := by
  intro s r t h
  rw [runFrom_fetch] at h
  obtain ⟨rfl, rfl⟩ := Prod.mk.inj (Option.some.inj h)
  refine ⟨[e], rfl, ?_⟩
  rw [List.map_singleton, failure?_of_readWith hread]
  cases reply source (e.path owner repo) read with
  | ok a => exact .untroubled (List.forall_mem_singleton.2 nofun)
  | error f =>
    cases hf : f.isNotFound with
    | true => exact .untroubled (List.forall_mem_singleton.2 fun g hg => Option.some.inj hg ▸ hf)
    | false => exact @Candid.stopped _ [] f nofun hf

theorem bind {w : Walk α} {k : α → Walk β} (hw : Reports source owner repo w)
    (hk : ∀ a, Reports source owner repo (k a)) : Reports source owner repo (w >>= k) := by
  intro s r t h
  rcases runFrom_bind_eq_some h with ⟨f, rfl, hrun⟩ | ⟨a, u, hrun, h⟩
  · obtain ⟨asked, hasked, hcandid⟩ := hw s _ t hrun
    exact ⟨asked, hasked, hcandid.of_error⟩
  · obtain ⟨asked, hasked, hcandid⟩ := hw s _ u hrun
    obtain ⟨asked', hasked', hcandid'⟩ := hk a u r t h
    refine ⟨asked ++ asked', hasked.trans hasked', ?_⟩
    rw [List.map_append]
    exact hcandid.append hcandid'

/-- Only a failure that means that something is not found is turned into a value. -/
theorem ifFound {w : Walk α} (hw : Reports source owner repo w) :
    Reports source owner repo w.ifFound := by
  intro s r t h
  rw [runFrom_ifFound] at h
  obtain ⟨⟨result, u⟩, hrun, heq⟩ := Option.map_eq_some_iff.1 h
  obtain ⟨asked, hasked, hcandid⟩ := hw s result u hrun
  cases result with
  | ok a =>
    cases heq
    exact ⟨asked, hasked, .untroubled hcandid.harmless_of_ok⟩
  | error f =>
    obtain ⟨rfl, rfl⟩ := Prod.mk.inj heq
    refine ⟨asked, hasked, ?_⟩
    split
    · rename_i hmissing
      refine .untroubled ?_
      generalize asked.map _ = outcomes at hcandid ⊢
      cases hcandid with
      | untroubled h => exact h
      | stopped _ hf =>
        rw [hmissing] at hf
        cases hf
    · exact hcandid.of_error

theorem memo {find : Session → Option α} {put : α → Session → Session} {w : Walk α}
    (hw : Reports source owner repo w) (hput : ∀ a s, (put a s).fetched = s.fetched) :
    Reports source owner repo (memo find put w) := by
  intro s r t h
  cases memoRun_of_runFrom h with
  | hit _ => exact ⟨[], rfl, .untroubled nofun⟩
  | @found a u _ hrun =>
    obtain ⟨asked, hasked, hcandid⟩ := hw s _ u hrun
    exact ⟨asked, (hput a u).trans hasked, hcandid⟩
  | failed _ hrun => exact hw s _ t hrun

end Reports

/-- **The walks of a resolver are candid**, whatever is remembered. -/
theorem closed_reports (source : Source) (owner repo : Text) :
    Closed source source owner repo fun _ w _ => Reports source owner repo w where
  patience := rfl
  pure _ _ := .of_still fun _ _ _ h => (Prod.mk.inj (Option.some.inj h)).2.symm
  fail _ _ _ _ := .of_still fun _ _ _ h => (Prod.mk.inj (Option.some.inj h)).2.symm
  endless _ := nofun
  fetch _ _ _ hread := .fetch hread
  bind _ _ _ _ _ _ hw hk := .bind hw hk
  ifFound _ _ _ hw := .ifFound hw
  reference _ _ _ hw := .memo hw fun _ _ => rfl
  spec _ _ _ hw := .memo hw fun _ _ => rfl

/-! ## Where a catalog fails in earnest -/

/-- Whether another source says the same about a repository, save where the first one fails in
earnest; there it may say anything. -/
structure Amends (source source' : Source) (owner repo : Text) : Prop where
  patience : source.patience = source'.patience
  catalog : ∀ e : Endpoint,
    (∀ f, e.failure? source owner repo = some f → f.isNotFound = true) →
      source'.catalog (e.path owner repo) = source.catalog (e.path owner repo)

/-- Whether another walk goes the same way, unless the first one ends in a failure in earnest. -/
def Follows (w w' : Walk α) : Prop :=
  ∀ s, (∃ f t, w.runFrom s = some (.error f, t) ∧ f.isNotFound = false) ∨
    w'.runFrom s = w.runFrom s

namespace Follows

theorem refl (w : Walk α) : Follows w w := fun _ => .inr rfl

theorem fetch {source' : Source} (hamends : Amends source source' owner repo) {e : Endpoint}
    {read : Json → Except Mismatch α} (hread : ReadWith e read) :
    Follows (Walk.fetch source (e.path owner repo) read)
      (Walk.fetch source' (e.path owner repo) read) := by
  intro s
  by_cases hearnest : ∃ f, e.failure? source owner repo = some f ∧ f.isNotFound = false
  · obtain ⟨f, hf, hharm⟩ := hearnest
    rw [failure?_of_readWith hread] at hf
    refine .inl ⟨f, s.addFetch (e.path owner repo), ?_, hharm⟩
    rw [runFrom_fetch]
    cases hreply : reply source (e.path owner repo) read with
    | ok a =>
      rw [hreply] at hf
      cases hf
    | error f' =>
      rw [hreply] at hf
      cases hf
      rfl
  · have hsame := hamends.catalog e fun f hf => by
      by_contra hharm
      exact hearnest ⟨f, hf, by simpa using hharm⟩
    rw [runFrom_fetch, runFrom_fetch, reply, reply, hsame]
    exact .inr rfl

theorem bind {w w' : Walk α} {k k' : α → Walk β} (hw : Follows w w')
    (hk : ∀ a, Follows (k a) (k' a)) : Follows (w >>= k) (w' >>= k') := by
  intro s
  rcases hw s with ⟨f, t, hrun, hf⟩ | hsame
  · exact .inl ⟨f, t, runFrom_bind_of_error hrun k, hf⟩
  · rw [runFrom_bind, runFrom_bind, hsame]
    rcases w.runFrom s with _ | ⟨f | a, t⟩
    · exact .inr rfl
    · exact .inr rfl
    · exact hk a t

theorem ifFound {w w' : Walk α} (hw : Follows w w') : Follows w.ifFound w'.ifFound := by
  intro s
  rcases hw s with ⟨f, t, hrun, hf⟩ | hsame
  · refine .inl ⟨f, t, ?_, hf⟩
    rw [runFrom_ifFound, hrun]
    simp [hf]
  · rw [runFrom_ifFound, runFrom_ifFound, hsame]
    exact .inr rfl

theorem memo {find : Session → Option α} {put : α → Session → Session} {w w' : Walk α}
    (hw : Follows w w') : Follows (memo find put w) (memo find put w') := by
  intro s
  cases hfind : find s with
  | some a =>
    rw [runFrom_memo_of_some hfind, runFrom_memo_of_some hfind]
    exact .inr rfl
  | none =>
    rw [runFrom_memo_of_none hfind, runFrom_memo_of_none hfind]
    exact hw.bind (fun _ => .refl _) s

end Follows

/-- **What a catalog says where it fails in earnest only shows in a walk that ends so.** -/
theorem closed_follows {source source' : Source} {owner repo : Text}
    (hamends : Amends source source' owner repo) :
    Closed source source' owner repo fun _ w w' => Follows w w' where
  patience := hamends.patience
  pure _ _ := .refl _
  fail _ f f' h := by cases h <;> exact .refl _
  endless _ := .refl _
  fetch _ _ _ hread := .fetch hamends hread
  bind _ _ _ _ _ _ hw hk := .bind hw hk
  ifFound _ _ _ hw := .ifFound hw
  reference _ _ _ hw := .memo hw
  spec _ _ _ hw := .memo hw

/-! ## Exact versions -/

/-- A walk that is asked for what it may not find never fails because it is not there. -/
theorem failsOnly_ifFound (w : Walk α) : FailsOnly (fun f => f.isNotFound = false) w.ifFound := by
  intro s f t h
  rw [runFrom_ifFound] at h
  obtain ⟨⟨r, u⟩, hrun, heq⟩ := Option.map_eq_some_iff.1 h
  cases r with
  | ok a => cases heq
  | error f' =>
    obtain ⟨hf, rfl⟩ := Prod.mk.inj heq
    split at hf
    · cases hf
    · rename_i hmissing
      cases hf
      simpa using hmissing

theorem failsOnly_firstExisting (names : List Text) :
    FailsOnly (fun f => f.isNotFound = false) (firstExisting source owner repo names) := by
  induction names with
  | nil => exact .pure none
  | cons name rest ih =>
    rw [firstExisting]
    refine .bind (failsOnly_ifFound _) fun found => ?_
    split
    · exact .pure _
    · exact ih

theorem failsOnly_resolveExact (spec normalized : Text) :
    FailsOnly (fun f => f.isNotFound = false)
      (resolveExact source owner repo spec normalized) := by
  rw [resolveExact]
  refine .bind (failsOnly_firstExisting _) fun found => ?_
  split
  · exact .pure _
  · exact .fail rfl

/-- **An exact version never fails because something is not found**: where one spelling of it is
missing the next one is tried, and in the end there is no release. -/
theorem failsOnly_resolveSpec_of_exact {spec : Text}
    (h : (Version.classify spec).1 = .exact) :
    FailsOnly (fun f => f.isNotFound = false) (resolveSpec source owner repo spec) := by
  by_cases hblank : Text.trim spec = []
  · rw [resolveSpec_of_blank hblank]
    exact .fail rfl
  · rw [resolveSpec_eq_memo hblank, h]
    exact .memo (failsOnly_resolveExact _ _)

/-! ## Every call -/

/-- The calls on a resolver that are about a repository. -/
inductive IsCall (owner repo : Text) : {α : Type} → (Source → Walk α) → Prop where
  | reference (name : Text) : IsCall owner repo fun source => resolveReference source owner repo name
  | spec (spec : Text) : IsCall owner repo fun source => resolveSpec source owner repo spec
  | search (normalized : Text) (kind : Version.Kind) :
      IsCall owner repo fun source => findMatchingTag source owner repo normalized kind
  | latest (version : Option Text) :
      IsCall owner repo fun source => latest source owner repo version

/-- A relation between walks that is closed holds of every call. -/
theorem IsCall.related {call : Source → Walk α} (h : IsCall owner repo call) {source' : Source}
    {C : ∀ α : Type, Walk α → Walk α → Prop} (hclosed : Closed source source' owner repo C) :
    C α (call source) (call source') := by
  cases h with
  | reference name => exact hclosed.resolveReference_related name
  | spec spec => exact hclosed.resolveSpec_related spec
  | search normalized kind => exact hclosed.findMatchingTag normalized kind
  | latest version => exact hclosed.latest_related version

/-- **No failure is masked.**  Whatever a resolver remembers, each of its calls asks for some
endpoints.  If one of them fails with anything but "not found", that was the last one, and the call
ends in that very failure.  So a call only says that it has run out of candidates when no endpoint
failed but by not being there; and an exact version never fails because something is not found.  A
call that does not end has met no failure but "not found" either: whatever the catalog said in place
of all others, the call would not end. -/
theorem no_failure_is_masked (hcatalog : source.catalog.FailsToFetch) (s : Session) :
    (∀ (α : Type) (call : Source → Walk α) (r : Except Failure α) (t : Session),
      IsCall owner repo call → (call source).runFrom s = some (r, t) →
        (∃ asked, Asked owner repo s t asked) ∧ ∀ asked, Asked owner repo s t asked →
          (∀ before e after f, asked = before ++ e :: after →
            e.failure? source owner repo = some f → f.isNotFound = false →
              after = [] ∧ r = .error f) ∧
          ∀ f, r = .error f → f.isExhausted = true → ∀ e ∈ asked, ∀ f',
            e.failure? source owner repo = some f' → f'.isNotFound = true) ∧
    (∀ (α : Type) (call : Source → Walk α), IsCall owner repo call →
      (call source).runFrom s = none → ∀ source', Amends source source' owner repo →
        (call source').runFrom s = none) ∧
    ∀ spec f t, (Version.classify spec).1 = .exact →
      (resolveSpec source owner repo spec).runFrom s = some (.error f, t) →
        f.isNotFound = false := by
  refine ⟨fun α call r t hcall hrun => ?_, fun α call hcall hendless source' hamends => ?_,
    fun spec f t hexact hrun => failsOnly_resolveSpec_of_exact hexact s f t hrun⟩
  · obtain ⟨asked₀, hasked₀, hcandid⟩ := hcall.related (closed_reports source owner repo) s r t hrun
    refine ⟨⟨asked₀, hasked₀⟩, fun asked hasked => ?_⟩
    rw [hasked₀.map_failure?_eq hasked] at hcandid
    have hlast : ∀ before e after f, asked = before ++ e :: after →
        e.failure? source owner repo = some f → f.isNotFound = false →
          after = [] ∧ r = .error f := by
      rintro before e after f rfl hf hharm
      rw [List.map_append, List.map_cons, hf] at hcandid
      obtain ⟨hafter, hr⟩ := hcandid.last rfl hharm
      exact ⟨List.map_eq_nil_iff.1 hafter, hr⟩
    refine ⟨hlast, fun f hr hexhausted e he f' hf' => ?_⟩
    by_contra hharm
    obtain ⟨before, after, hsplit⟩ := List.append_of_mem he
    obtain ⟨-, hr'⟩ := hlast before e after f' hsplit hf' (by simpa using hharm)
    -- then the call would end in a failure of a fetch, and none of these is one of a search
    cases hr.symm.trans hr'
    rw [Failure.isExhausted_of_isOfFetch (isOfFetch_of_failure? hcatalog hf')] at hexhausted
    cases hexhausted
  · rcases hcall.related (closed_follows hamends) s with ⟨f, t, hrun, -⟩ | hsame
    · rw [hendless] at hrun
      cases hrun
    · exact hsame.trans hendless

/-- A catalog that is out of order at one path, and knows nothing else. -/
def brokenAt (broken : Text) : Source :=
  ⟨fun path => if path = broken then .error (.http 500 path []) else .error (.notFound path), 1⟩

theorem failsToFetch_brokenAt (broken : Text) : (brokenAt broken).catalog.FailsToFetch := by
  intro path f h
  rw [brokenAt] at h
  dsimp only at h
  split at h <;> cases h <;> rfl

/-- What a resolver is told when one spelling of a version is missing and the next one is out of
order. -/
theorem no_failure_is_masked_brokenAt :
    (brokenAt "repos/o/r/git/ref/tags/1.2.3".toList).catalog.FailsToFetch ∧
    ∃ r t, (resolveSpec (brokenAt "repos/o/r/git/ref/tags/1.2.3".toList) ['o'] ['r']
        "1.2.3".toList).runFrom .empty = some (r, t) ∧
      Asked ['o'] ['r'] .empty t [.tagReference "v1.2.3".toList, .tagReference "1.2.3".toList] ∧
      r = .error (.http 500 "repos/o/r/git/ref/tags/1.2.3".toList []) :=
  have hcatalog := failsToFetch_brokenAt "repos/o/r/git/ref/tags/1.2.3".toList
  have hlog : ((resolveSpec (brokenAt "repos/o/r/git/ref/tags/1.2.3".toList) ['o'] ['r']
      "1.2.3".toList).runFrom .empty).map (fun p => p.2.fetched) =
        some ["repos/o/r/git/ref/tags/1.2.3".toList, "repos/o/r/git/ref/tags/v1.2.3".toList] := by
    decide +kernel
  have ⟨⟨r, t⟩, hrun, hfetched⟩ := Option.map_eq_some_iff.1 hlog
  have hasked : Asked ['o'] ['r'] .empty t
      [.tagReference "v1.2.3".toList, .tagReference "1.2.3".toList] :=
    hfetched.trans (by decide +kernel)
  have hcall := (no_failure_is_masked hcatalog .empty).1 _ _ r t (.spec "1.2.3".toList) hrun
  ⟨hcatalog, r, t, hrun, hasked,
    ((hcall.2 _ hasked).1 [.tagReference "v1.2.3".toList] (.tagReference "1.2.3".toList) [] _ rfl
      (by decide +kernel) (by decide)).2⟩

end Resolver

end PinnedActions
