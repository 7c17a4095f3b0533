import GatedRelay.Proofs.Attempts
import GatedRelay.Publish.TokenDesk
import Mathlib.Data.List.Basic
import Mathlib.Data.List.Induction

/-!
# The cache of tokens

Calls that have the lock one after another use the token of the last fetch until a minute before
its lifetime ends, and only then ask for another one. A fetch that fails gives no token and leaves
the cache as it was.
-/

namespace GatedRelay

/-! ### Replies -/

namespace Token

/-- A reply that holds a token with its lifetime. -/
def Grants (r : Reply) (token : String) (lifetime : Nat) : Prop :=
  ∃ status body, r = .answer status body ∧ 200 ≤ status ∧ status < 300 ∧
    ofAnswer? body = some (token, lifetime)

/-- The time from which on a token is not used any more. -/
def endOfUse (fetched lifetime : Nat) : Nat := fetched + (lifetime - expiryMargin) * nanosPerSecond

/-- What a reply is good for at a time. -/
def granted (now : Nat) : Reply → Attempt TokenError CachedToken
  | .unreachable => .fail .unreachable
  | .answer status body =>
    if !Status.isSuccess status then .fail (.refused status)
    else
      match ofAnswer? body with
      | none => .fail .malformed
      | some (token, lifetime) => (Attempt.orAbort (refreshTime? now lifetime)).map (⟨token, ·⟩)

lemma Grants.unique {r : Reply} {token token' : String} {lifetime lifetime' : Nat}
    (h : Grants r token lifetime) (h' : Grants r token' lifetime') :
    token = token' ∧ lifetime = lifetime' := by
  obtain ⟨status, body, rfl, -, -, hbody⟩ := h
  obtain ⟨_, _, hsame, -, -, hbody'⟩ := h'
  cases hsame
  simpa using hbody.symm.trans hbody'

/-- There is an end of use unless it is too far away to be a time. -/
lemma granted_of_grants {r : Reply} {token : String} {lifetime : Nat} (h : Grants r token lifetime)
    (now : Nat) :
    granted now r =
      if endOfUse now lifetime / nanosPerSecond < 0x8000000000000000 then
        .ok ⟨token, endOfUse now lifetime⟩
      else .error .aborted := by
  obtain ⟨status, body, rfl, hlow, hhigh, hbody⟩ := h
  rw [granted, Status.isSuccess_iff.mpr ⟨hlow, hhigh⟩, if_neg (by decide), hbody]
  have hend : refreshTime? now lifetime =
      if endOfUse now lifetime / nanosPerSecond < 0x8000000000000000 then
        some (endOfUse now lifetime)
      else none := rfl
  dsimp only
  rw [hend]
  split_ifs
  · rfl
  · rfl

lemma granted_of_not_grants {r : Reply} (h : ∀ token lifetime, ¬Grants r token lifetime)
    (now : Nat) : ∃ e, granted now r = .fail e := by
  cases r with
  | unreachable => exact ⟨_, rfl⟩
  | answer status body =>
    rw [granted]
    split_ifs with hfailure
    · exact ⟨_, rfl⟩
    · have hsuccess : Status.isSuccess status = true := by simpa using hfailure
      cases hbody : ofAnswer? body with
      | none => exact ⟨_, rfl⟩
      | some granted =>
        obtain ⟨token, lifetime⟩ := granted
        obtain ⟨hlow, hhigh⟩ := Status.isSuccess_iff.mp hsuccess
        exact absurd ⟨status, body, rfl, hlow, hhigh, hbody⟩ (h token lifetime)

/-- The result of a call that asked for a token, and the cache from then on. -/
def concluded (found : Option CachedToken) :
    Attempt TokenError CachedToken → Attempt TokenError (Option String) × Option CachedToken
  | .ok t => (.ok (some t.value), some t)
  | .error e => (.error e, found)

/-- What is left to a call that found nothing to use. -/
def asking (url : String) (found : Option CachedToken) :
    Exchange (Attempt TokenError (Option String) × Option CachedToken) :=
  (fetch url).bind fun a => .done (concluded found a)

end Token

/-! ### Up to the next request -/

lemma Exchange.settle_bind_done {α β : Type} (x : Exchange α) (f : α → β) (now : Nat) :
    (x.bind fun a => .done (f a)).settle now = (x.settle now).bind fun a => .done (f a) := by
  induction x with
  | done a => rfl
  | call c next => rfl
  | look next ih => exact ih now

lemma Token.settle_asking (url : String) (found : Option CachedToken) :
    ∃ next, asking url found = .call (request url) next ∧
      ∀ r now, (next r).settle now = .done (concluded found (granted now r)) := by
  refine ⟨_, rfl, fun r now => ?_⟩
  cases r with
  | unreachable => rfl
  | answer status body =>
    rw [granted]
    by_cases hfailure : (!Status.isSuccess status) = true
    · dsimp only
      rw [if_pos hfailure, if_pos hfailure]
      rfl
    · dsimp only
      rw [if_neg hfailure, if_neg hfailure]
      cases ofAnswer? body with
      | none => rfl
      | some granted => rfl

namespace Credentials

variable (url : String) {now : Nat}

lemma token_metadata (cache : Option CachedToken) :
    (metadata url).token cache =
      (Token.obtain url cache).bind fun a => .done (Token.concluded cache a) := by
  rw [token]
  change Exchange.bind _ _ = _
  congr 1
  funext a
  cases a <;> rfl

lemma settle_token_of_lt {t : CachedToken} (h : now < t.refreshAt) :
    ((metadata url).token (some t)).settle now = .done (.ok (some t.value), some t) := by
  rw [token_metadata, Exchange.settle_bind_done, Token.obtain, Exchange.settle, if_pos h]
  rfl

lemma settle_token_of_le {cache : Option CachedToken}
    (h : ∀ t, cache = some t → t.refreshAt ≤ now) :
    ((metadata url).token cache).settle now = Token.asking url cache := by
  rw [token_metadata, Exchange.settle_bind_done]
  cases cache with
  | none => rfl
  | some t =>
    have hle : t.refreshAt ≤ now := h t rfl
    rw [Token.obtain, Exchange.settle, if_neg (by omega)]
    rfl

end Credentials

namespace TokenAnswer

variable {url : String} {x : TokenAnswer}

/-- The call asked for a token and got one with a lifetime. -/
def Fetches (url : String) (x : TokenAnswer) (token : String) (lifetime : Nat) : Prop :=
  ∃ r, x.asked = [(Token.request url, r)] ∧ Token.Grants r token lifetime ∧
    x.result = .ok (some token)

/-- The call used a token that it found. -/
structure Reuses (x : TokenAnswer) (t : CachedToken) : Prop where
  found : x.found = some t
  start_lt : x.start < t.refreshAt
  asked : x.asked = []
  finish_eq : x.finish = x.start
  result : x.result = .ok (some t.value)
  left : x.left = some t

/-- The call found nothing to use and got a reply to its request. -/
structure Asks (url : String) (x : TokenAnswer) (r : Reply) : Prop where
  le_start : ∀ t, x.found = some t → t.refreshAt ≤ x.start
  asked : x.asked = [(Token.request url, r)]
  start_le : x.start ≤ x.finish
  concluded : (x.result, x.left) = Token.concluded x.found (Token.granted x.finish r)

/-- The two ways of a call. -/
def Regular (url : String) (x : TokenAnswer) : Prop := (∃ t, x.Reuses t) ∨ ∃ r, x.Asks url r

lemma Regular.start_le (h : x.Regular url) : x.start ≤ x.finish := by
  obtain ⟨t, ht⟩ | ⟨r, hr⟩ := h
  · exact Nat.le_of_eq ht.finish_eq.symm
  · exact hr.start_le

/-- How a call ends after a reply. An end of use that is too far away to be a time aborts it. -/
def EndsBy (x : TokenAnswer) (r : Reply) : Prop :=
  (∃ token lifetime, Token.Grants r token lifetime ∧ x.result = .ok (some token) ∧
    x.left = some ⟨token, Token.endOfUse x.finish lifetime⟩) ∨
  (∃ token lifetime, Token.Grants r token lifetime ∧
    0x8000000000000000 ≤ Token.endOfUse x.finish lifetime / Token.nanosPerSecond ∧
    x.result = .error .aborted ∧ x.left = x.found) ∨
  (∀ token lifetime, ¬Token.Grants r token lifetime) ∧ (∃ e, x.result = .fail e) ∧
    x.left = x.found

lemma Asks.endsBy {r : Reply} (h : x.Asks url r) : x.EndsBy r := by
  have hconcluded := h.concluded
  by_cases hgrants : ∃ token lifetime, Token.Grants r token lifetime
  · obtain ⟨token, lifetime, hgrants⟩ := hgrants
    rw [Token.granted_of_grants hgrants] at hconcluded
    split_ifs at hconcluded with htime
    · obtain ⟨hresult, hleft⟩ := Prod.mk.inj hconcluded
      exact .inl ⟨token, lifetime, hgrants, hresult, hleft⟩
    · obtain ⟨hresult, hleft⟩ := Prod.mk.inj hconcluded
      exact .inr (.inl ⟨token, lifetime, hgrants, Nat.le_of_not_lt htime, hresult, hleft⟩)
  · have hnone : ∀ token lifetime, ¬Token.Grants r token lifetime :=
      fun token lifetime h => hgrants ⟨token, lifetime, h⟩
    obtain ⟨e, he⟩ := Token.granted_of_not_grants hnone x.finish
    rw [he] at hconcluded
    obtain ⟨hresult, hleft⟩ := Prod.mk.inj hconcluded
    exact .inr (.inr ⟨hnone, ⟨e, hresult⟩, hleft⟩)

lemma Asks.fetches_iff {r : Reply} (h : x.Asks url r) {token : String} {lifetime : Nat} :
    x.Fetches url token lifetime ↔ Token.Grants r token lifetime ∧ x.result = .ok (some token) := by
  simp only [Fetches, h.asked, List.cons.injEq, Prod.mk.injEq, true_and, and_true,
    exists_eq_left']

lemma Regular.left_of_fetches (h : x.Regular url) {token : String} {lifetime : Nat}
    (hfetch : x.Fetches url token lifetime) :
    x.left = some ⟨token, Token.endOfUse x.finish lifetime⟩ := by
  obtain ⟨t, ht⟩ | ⟨r, hr⟩ := h
  · obtain ⟨_, hasked, -⟩ := hfetch
    rw [ht.asked] at hasked
    cases hasked
  · obtain ⟨hgrants, hresult⟩ := hr.fetches_iff.mp hfetch
    obtain ⟨_, _, hgrants', -, hleft⟩ | ⟨_, _, -, -, hfault, -⟩ | ⟨-, ⟨e, hfault⟩, -⟩ := hr.endsBy
    · obtain ⟨rfl, rfl⟩ := hgrants.unique hgrants'
      exact hleft
    · rw [hfault] at hresult
      cases hresult
    · rw [hfault] at hresult
      cases hresult

/-- Only a fetch changes the cache. -/
lemma Regular.left_of_no_fetch (h : x.Regular url)
    (hnone : ∀ token lifetime, ¬x.Fetches url token lifetime) : x.left = x.found := by
  obtain ⟨t, ht⟩ | ⟨r, hr⟩ := h
  · rw [ht.left, ht.found]
  · obtain ⟨token, lifetime, hgrants, hresult, -⟩ | ⟨_, _, -, -, -, hleft⟩ | ⟨-, -, hleft⟩ :=
      hr.endsBy
    · exact absurd (hr.fetches_iff.mpr ⟨hgrants, hresult⟩) (hnone token lifetime)
    · exact hleft
    · exact hleft

end TokenAnswer

/-! ### The cache from call to call -/

/-- Each call finds what the one before it has left. -/
def Linked : Option CachedToken → List TokenAnswer → Option CachedToken → Prop
  | first, [], last => first = last
  | first, x :: rest, last => x.found = first ∧ Linked x.left rest last

section Linked

variable {url : String} {first last : Option CachedToken} {answers : List TokenAnswer}

lemma linked_append {before after : List TokenAnswer} :
    Linked first (before ++ after) last ↔
      ∃ mid, Linked first before mid ∧ Linked mid after last := by
  induction before generalizing first with
  | nil => simp [Linked]
  | cons x rest ih => simp only [List.cons_append, Linked, ih, and_assoc, exists_and_left]

lemma linked_concat {x : TokenAnswer} (h : Linked first answers x.found) :
    Linked first (answers ++ [x]) x.left :=
  linked_append.mpr ⟨x.found, h, rfl, rfl⟩

/-- The fetch that a cached token comes from. -/
lemma exists_fetch_of_linked (hall : ∀ x ∈ answers, x.Regular url) {t : CachedToken}
    (h : Linked none answers (some t)) :
    ∃ y ∈ answers, ∃ lifetime, y.Fetches url t.value lifetime ∧
      t.refreshAt = Token.endOfUse y.finish lifetime := by
  induction answers using List.reverseRecOn generalizing t with
  | nil => cases h
  | append_singleton before x ih =>
    obtain ⟨mid, hbefore, hfound, hleft⟩ := linked_append.mp h
    have hx : x.Regular url := hall x (by simp)
    by_cases hfetch : ∃ token lifetime, x.Fetches url token lifetime
    · obtain ⟨token, lifetime, hfetch⟩ := hfetch
      have ht : some (⟨token, Token.endOfUse x.finish lifetime⟩ : CachedToken) = some t :=
        (hx.left_of_fetches hfetch).symm.trans hleft
      cases ht
      exact ⟨x, by simp, lifetime, hfetch, rfl⟩
    · have hsame : x.left = x.found :=
        hx.left_of_no_fetch fun token lifetime h => hfetch ⟨token, lifetime, h⟩
      have hmid : mid = some t := by rw [← hfound, ← hsame, ← hleft]
      obtain ⟨y, hy, hy'⟩ := ih (fun y hy => hall y (by simp [hy])) (hmid ▸ hbefore)
      exact ⟨y, by simp [hy], hy'⟩

/-- Calls without a fetch keep the cache. -/
lemma linked_of_no_fetch (hall : ∀ x ∈ answers, x.Regular url)
    (hnone : ∀ x ∈ answers, ∀ token lifetime, ¬x.Fetches url token lifetime)
    (h : Linked first answers last) : last = first := by
  induction answers generalizing first with
  | nil => exact h.symm
  | cons x rest ih =>
    obtain ⟨rfl, hrest⟩ := h
    rw [List.forall_mem_cons] at hall hnone
    rw [ih hall.2 hnone.2 hrest, hall.1.left_of_no_fetch hnone.1]

end Linked

/-- The last fetch among some calls. -/
def LastFetch (url : String) (answers : List TokenAnswer) (y : TokenAnswer) (token : String)
    (lifetime : Nat) : Prop :=
  ∃ earlier later, answers = earlier ++ y :: later ∧ y.Fetches url token lifetime ∧
    ∀ z ∈ later, ∀ token' lifetime', ¬z.Fetches url token' lifetime'

lemma LastFetch.cache {url : String} {first last : Option CachedToken}
    {answers : List TokenAnswer} {y : TokenAnswer} {token : String} {lifetime : Nat}
    (h : LastFetch url answers y token lifetime) (hall : ∀ x ∈ answers, x.Regular url)
    (hlinked : Linked first answers last) :
    last = some ⟨token, Token.endOfUse y.finish lifetime⟩ := by
  obtain ⟨earlier, later, rfl, hfetch, hnone⟩ := h
  obtain ⟨mid, -, -, hlater⟩ := linked_append.mp hlinked
  have hy : y.Regular url := hall y (by simp)
  rw [linked_of_no_fetch (fun z hz => hall z (by simp [hz])) hnone hlater,
    hy.left_of_fetches hfetch]

/-- What holds of a call that is over, by the calls that were over before. -/
structure TokenAnswer.Sound (url : String) (before : List TokenAnswer) (x : TokenAnswer) :
    Prop where
  /-- A token is from a fetch, of this call or of one before it, and in its time of use. -/
  origin : ∀ result, x.result = .ok result → ∃ token, result = some token ∧
    ((∃ lifetime, x.Fetches url token lifetime) ∨
      x.asked = [] ∧ ∃ y ∈ before, ∃ lifetime, y.Fetches url token lifetime ∧
        y.finish ≤ x.finish ∧ x.finish < Token.endOfUse y.finish lifetime)
  /-- Nothing is asked for while the token of the last fetch may be used. -/
  reuse : ∀ y token lifetime, LastFetch url before y token lifetime →
    x.start < Token.endOfUse y.finish lifetime →
    x.asked = [] ∧ x.finish = x.start ∧ x.result = .ok (some token)
  /-- Only a reply that grants a token changes the cache, and any other one is a failure. -/
  asked : (x.asked = [] ∧ x.left = x.found) ∨
    ∃ r, x.asked = [(Token.request url, r)] ∧ x.EndsBy r

lemma TokenAnswer.Regular.sound {url : String} {before : List TokenAnswer} {x : TokenAnswer}
    (h : x.Regular url) (hbefore : ∀ y ∈ before, y.Regular url)
    (hpast : ∀ y ∈ before, y.finish ≤ x.start) (hlinked : Linked none before x.found) :
    x.Sound url before := by
  obtain ⟨t, ht⟩ | ⟨r, hr⟩ := h
  · refine ⟨fun result hresult => ?_, fun y token lifetime hlast _ => ?_, .inl ⟨ht.asked, ?_⟩⟩
    · obtain ⟨y, hy, lifetime, hfetch, hend⟩ :=
        exists_fetch_of_linked hbefore (ht.found ▸ hlinked)
      have hy' : y.finish ≤ x.start := hpast y hy
      have hfinish : x.finish = x.start := ht.finish_eq
      have hlt : x.start < t.refreshAt := ht.start_lt
      refine ⟨t.value, Except.ok.inj (hresult.symm.trans ht.result), .inr ⟨ht.asked, y, hy,
        lifetime, hfetch, ?_, ?_⟩⟩
      · omega
      · omega
    · have hfound := hlast.cache hbefore hlinked
      rw [ht.found, Option.some_inj] at hfound
      exact ⟨ht.asked, ht.finish_eq, by rw [ht.result, hfound]⟩
    · rw [ht.left, ht.found]
  · refine ⟨fun result hresult => ?_, fun y token lifetime hlast hlt => ?_,
      .inr ⟨r, hr.asked, hr.endsBy⟩⟩
    · obtain ⟨token, lifetime, hgrants, hok, -⟩ | ⟨_, _, -, -, hfault, -⟩ |
        ⟨-, ⟨e, hfault⟩, -⟩ := hr.endsBy
      · refine ⟨token, Except.ok.inj (hresult.symm.trans hok), .inl ⟨lifetime, ?_⟩⟩
        exact hr.fetches_iff.mpr ⟨hgrants, hok⟩
      · rw [hfault] at hresult
        cases hresult
      · rw [hfault] at hresult
        cases hresult
    · have hle := hr.le_start _ (hlast.cache hbefore hlinked)
      dsimp only at hle
      omega

/-! ### Runs -/

namespace TokenDesk

variable {d : TokenDesk} {v : TokenVisit}
  {x : Exchange (Attempt TokenError (Option String) × Option CachedToken)}

/-- The call that has the lock waits for the reply to its request. -/
structure Holds (d : TokenDesk) (v : TokenVisit)
    (x : Exchange (Attempt TokenError (Option String) × Option CachedToken)) : Prop where
  waits : x = Token.asking d.url d.cache
  found : v.found = d.cache
  asked : v.asked = []
  le_start : ∀ t, d.cache = some t → t.refreshAt ≤ v.start
  start_le : v.start ≤ d.now
  past : ∀ y ∈ d.answers, y.finish ≤ v.start

/-- What holds of a desk at any time. -/
structure InOrder (d : TokenDesk) : Prop where
  regular : ∀ x ∈ d.answers, x.Regular d.url
  linked : Linked none d.answers d.cache
  times : d.answers.Pairwise fun x y => x.finish ≤ y.start
  past : ∀ x ∈ d.answers, x.finish ≤ d.now
  holds : ∀ v x, d.visit = some (v, x) → d.Holds v x

/-- The call that has the lock is over. -/
def close (d : TokenDesk) (x : TokenAnswer) : TokenDesk :=
  { d with
    cache := x.left
    visit := none
    answers := d.answers ++ [x] }

lemma goOn_of_done {result : Attempt TokenError (Option String)} {cache : Option CachedToken}
    (h : x.settle d.now = .done (result, cache)) :
    d.goOn v x = d.close ⟨v, d.now, result, cache⟩ := by
  rw [goOn, h]
  rfl

lemma goOn_of_call {c : Call} {next : Reply → Exchange _} (h : x.settle d.now = .call c next) :
    d.goOn v x = { d with visit := some (v, .call c next) } := by
  rw [goOn, h]

lemma url_goOn (d : TokenDesk) (v : TokenVisit)
    (x : Exchange (Attempt TokenError (Option String) × Option CachedToken)) :
    (d.goOn v x).url = d.url := by
  unfold goOn
  split <;> rfl

lemma url_take (d : TokenDesk) (turn : TokenTurn) : (d.take turn).url = d.url := by
  unfold take
  split
  · split
    · exact url_goOn ..
    · rfl
  · split
    · exact url_goOn ..
    · rfl
  · rfl
  · rfl

lemma url_run (d : TokenDesk) (turns : List TokenTurn) : (d.run turns).url = d.url := by
  induction turns generalizing d with
  | nil => rfl
  | cons turn rest ih => exact (ih (d.take turn)).trans (url_take d turn)

lemma inOrder_opened (url : String) (now : Nat) : (opened url now).InOrder where
  regular := List.forall_mem_nil _
  linked := rfl
  times := .nil
  past := List.forall_mem_nil _
  holds _ _ h := nomatch h

lemma inOrder_close (h : d.InOrder) {x : TokenAnswer} (hx : x.Regular d.url)
    (hfound : x.found = d.cache) (hpast : ∀ y ∈ d.answers, y.finish ≤ x.start)
    (hfinish : x.finish = d.now) : (d.close x).InOrder where
  regular := List.forall_mem_append.mpr ⟨h.regular, List.forall_mem_singleton.mpr hx⟩
  linked := linked_concat (hfound ▸ h.linked)
  times := List.pairwise_append.mpr ⟨h.times, List.pairwise_singleton _ _, fun y hy =>
    List.forall_mem_singleton.mpr (hpast y hy)⟩
  past := List.forall_mem_append.mpr ⟨h.past, List.forall_mem_singleton.mpr (Nat.le_of_eq hfinish)⟩
  holds _ _ h := nomatch h

/-- The call that takes the lock is over at once if there is a token to use. -/
lemma inOrder_enter (h : d.InOrder) : (d.take .enter).InOrder := by
  cases hv : d.visit with
  | some visit =>
    have hsame : d.take .enter = d := by rw [take, hv]
    exact hsame.symm ▸ h
  | none =>
    have htake : d.take .enter =
        d.goOn ⟨d.cache, d.now, []⟩ ((Credentials.metadata d.url).token d.cache) := by
      rw [take, hv]
    rw [htake]
    by_cases husable : ∃ t, d.cache = some t ∧ d.now < t.refreshAt
    · obtain ⟨t, ht, hlt⟩ := husable
      have hsettle := Credentials.settle_token_of_lt d.url hlt
      rw [← ht] at hsettle
      rw [goOn_of_done hsettle]
      refine inOrder_close h (.inl ⟨t, ?_⟩) rfl h.past rfl
      exact ⟨ht, hlt, rfl, rfl, rfl, ht⟩
    · have hstale : ∀ t, d.cache = some t → t.refreshAt ≤ d.now :=
        fun t ht => Nat.le_of_not_lt fun hlt => husable ⟨t, ht, hlt⟩
      have hsettle := Credentials.settle_token_of_le d.url hstale
      obtain ⟨next, hasking, -⟩ := Token.settle_asking d.url d.cache
      rw [goOn_of_call (hsettle.trans hasking)]
      refine ⟨h.regular, h.linked, h.times, h.past, ?_⟩
      rintro _ _ ⟨⟩
      exact ⟨hasking.symm, rfl, rfl, hstale, Nat.le_refl _, h.past⟩

/-- The call that gets its reply is over. -/
lemma take_reply (h : d.InOrder) (hv : d.visit = some (v, x)) (r : Reply) :
    ∃ y, d.take (.reply r) = d.close y ∧ y.found = d.cache ∧ y.start = v.start ∧
      y.finish = d.now ∧ y.Asks d.url r := by
  have hholds := h.holds v x hv
  obtain ⟨next, hasking, hsettle⟩ := Token.settle_asking d.url d.cache
  obtain rfl := hholds.waits.trans hasking
  have hasked : v.asked ++ [(Token.request d.url, r)] = [(Token.request d.url, r)] := by
    rw [hholds.asked, List.nil_append]
  have htake : d.take (.reply r) =
      d.goOn { v with asked := [(Token.request d.url, r)] } (next r) := by
    rw [take, hv]
    dsimp only
    rw [hasked]
  rw [htake, goOn_of_done (hsettle r d.now)]
  refine ⟨_, rfl, hholds.found, rfl, rfl, ?_, rfl, hholds.start_le, ?_⟩
  · intro t ht
    exact hholds.le_start t (hholds.found.symm.trans ht)
  · rw [hholds.found]
    rfl

lemma inOrder_reply (h : d.InOrder) (r : Reply) : (d.take (.reply r)).InOrder := by
  cases hv : d.visit with
  | none =>
    have hsame : d.take (.reply r) = d := by rw [take, hv]
    exact hsame.symm ▸ h
  | some visit =>
    obtain ⟨v, x⟩ := visit
    obtain ⟨y, htake, hfound, hstart, hfinish, hasks⟩ := take_reply h hv r
    rw [htake]
    refine inOrder_close h (.inr ⟨r, hasks⟩) hfound (fun z hz => ?_) hfinish
    exact hstart ▸ (h.holds v x hv).past z hz

lemma inOrder_take (h : d.InOrder) (turn : TokenTurn) : (d.take turn).InOrder := by
  cases turn with
  | enter => exact inOrder_enter h
  | reply r => exact inOrder_reply h r
  | pass nanos =>
    refine ⟨h.regular, h.linked, h.times, fun x hx => ?_, fun v x hv => ?_⟩
    · exact Nat.le_add_right_of_le (h.past x hx)
    · have hholds := h.holds v x hv
      exact ⟨hholds.waits, hholds.found, hholds.asked, hholds.le_start,
        Nat.le_add_right_of_le hholds.start_le, hholds.past⟩
  | giveUp => exact ⟨h.regular, h.linked, h.times, h.past, fun _ _ hv => nomatch hv⟩

theorem inOrder_run (h : d.InOrder) (turns : List TokenTurn) : (d.run turns).InOrder := by
  induction turns generalizing d with
  | nil => exact h
  | cons turn rest ih => exact ih (inOrder_take h turn)

/-- Calls that have the lock one after another, with a clock that does not go back, are sound:
each token comes from a fetch and is in its time of use, and nothing is fetched while there is
such a token. A call that got no lock or no reply yet has no result. -/
theorem run_sound (url : String) (now : Nat) (turns : List TokenTurn) :
    let d := (opened url now).run turns
    Linked none d.answers d.cache ∧
    d.answers.Pairwise (fun x y => x.finish ≤ y.start) ∧
    (∀ x ∈ d.answers, x.start ≤ x.finish ∧ x.finish ≤ d.now) ∧
    (∀ before x after, d.answers = before ++ x :: after → x.Sound url before) ∧
    ∀ v x, d.visit = some (v, x) →
      v.found = d.cache ∧ (∀ t, d.cache = some t → t.refreshAt ≤ v.start) ∧
      ∀ r, ∃ y, (d.take (.reply r)).answers = d.answers ++ [y] ∧ y.found = d.cache ∧
        y.asked = [(Token.request url, r)] ∧ y.EndsBy r := by
  intro d
  have h : d.InOrder := inOrder_run (inOrder_opened url now) turns
  have hurl : d.url = url := url_run ..
  refine ⟨h.linked, h.times, fun x hx => ⟨(h.regular x hx).start_le, h.past x hx⟩, ?_, ?_⟩
  · intro before x after hsplit
    have hregular := h.regular
    have hlinked := h.linked
    have htimes := h.times
    rw [hsplit] at hregular hlinked htimes
    rw [hurl] at hregular
    obtain ⟨hbefore, hx, -⟩ : (∀ y ∈ before, y.Regular url) ∧ x.Regular url ∧
        ∀ z ∈ after, z.Regular url := by
      rwa [List.forall_mem_append, List.forall_mem_cons] at hregular
    obtain ⟨mid, hmid, hfound, -⟩ := linked_append.mp hlinked
    have hpast : ∀ y ∈ before, y.finish ≤ x.start :=
      fun y hy => (List.pairwise_append.mp htimes).2.2 y hy x List.mem_cons_self
    exact hx.sound hbefore hpast (hfound ▸ hmid)
  · intro v x hv
    have hholds := h.holds v x hv
    refine ⟨hholds.found, hholds.le_start, fun r => ?_⟩
    obtain ⟨y, htake, hfound, -, -, hasks⟩ := take_reply h hv r
    exact ⟨y, by rw [htake]; rfl, hfound, hurl ▸ hasks.asked, hasks.endsBy⟩

-- The token may be used for forty seconds of its hundred.
example :
    ((opened "http://localhost/token" 0).run
      [.enter, .reply (.answer 200
          (Utf8.ofString "\x7b\"access_token\":\"t\",\"expires_in\":100\x7d")),
        .pass 39999999999, .enter, .pass 1, .enter, .reply .unreachable]).answers.map
      (fun x => (x.finish, x.asked.length)) =
    [(0, 1), (39999999999, 0), (40000000000, 1)] := by decide +kernel

end TokenDesk

end GatedRelay
