import GatedRelay.Web.Route
import Mathlib.Data.List.Basic
import Mathlib.Data.List.TakeWhile
import Mathlib.Tactic.Common

/-!
# Which paths are routes

A route consists of segments, each after a slash. A segment is plain text, at the end of which an
open part may have a name; a whole last segment may be an open rest with a name.
-/

namespace GatedRelay.Route

/-- Whether a text has no slash in it, and no mark of an open part. -/
def IsPlain (cs : List Char) : Prop := ∀ c ∈ cs, c ≠ '/' ∧ c ≠ ':' ∧ c ≠ '*'

def IsName (cs : List Char) : Prop := cs ≠ [] ∧ IsPlain cs

inductive IsSegment : List Char → Prop
  | plain {cs : List Char} (hc : IsPlain cs) : IsSegment cs
  | named {cs n : List Char} (hc : IsPlain cs) (hn : IsName n) : IsSegment (cs ++ ':' :: n)

/-- What may follow a slash in a route. -/
inductive FollowsSlash : List Char → Prop
  | last {cs : List Char} (hc : IsSegment cs) : FollowsSlash cs
  | rest {n : List Char} (hn : IsName n) : FollowsSlash ('*' :: n)
  | segment {cs more : List Char} (hc : IsSegment cs) (hm : FollowsSlash more) :
      FollowsSlash (cs ++ '/' :: more)

/-- Whether a path is a route: it begins with a slash, no open part lacks its name, and nothing
follows an open rest. -/
def IsRoutePath (path : String) : Prop := ∃ cs, path.toList = '/' :: cs ∧ FollowsSlash cs

/-- What may follow a part of a segment that can go on. -/
def FollowsPlain (cs : List Char) : Prop :=
  ∃ s, IsSegment s ∧ (cs = s ∨ ∃ more, cs = s ++ '/' :: more ∧ FollowsSlash more)

/-- What may follow a name. -/
def FollowsName (cs : List Char) : Prop := cs = [] ∨ ∃ more, cs = '/' :: more ∧ FollowsSlash more

lemma isPlain_nil : IsPlain [] := List.forall_mem_nil _

lemma isPlain_cons {c : Char} {cs : List Char} :
    IsPlain (c :: cs) ↔ (c ≠ '/' ∧ c ≠ ':' ∧ c ≠ '*') ∧ IsPlain cs :=
  List.forall_mem_cons

lemma followsSlash_iff {cs : List Char} :
    FollowsSlash cs ↔ FollowsPlain cs ∨ ∃ n, IsName n ∧ cs = '*' :: n := by
  constructor
  · intro h
    cases h with
    | last hc => exact .inl ⟨cs, hc, .inl rfl⟩
    | rest hn => exact .inr ⟨_, hn, rfl⟩
    | segment hc hm => exact .inl ⟨_, hc, .inr ⟨_, rfl, hm⟩⟩
  · rintro (⟨s, hs, rfl | ⟨more, rfl, hm⟩⟩ | ⟨n, hn, rfl⟩)
    · exact .last hs
    · exact .segment hs hm
    · exact .rest hn

lemma isSegment_cons_iff {c : Char} {cs : List Char} :
    IsSegment (c :: cs) ↔
      ((c ≠ '/' ∧ c ≠ ':' ∧ c ≠ '*') ∧ IsSegment cs) ∨ (c = ':' ∧ IsName cs) := by
  constructor
  · intro h
    generalize hs : c :: cs = s at h
    cases h with
    | plain hc =>
      subst hs
      obtain ⟨hmark, hcs⟩ := isPlain_cons.mp hc
      exact .inl ⟨hmark, .plain hcs⟩
    | @named before n hc hn =>
      cases before with
      | nil =>
        obtain ⟨rfl, rfl⟩ := List.cons.inj hs
        exact .inr ⟨rfl, hn⟩
      | cons d before =>
        obtain ⟨rfl, rfl⟩ := List.cons.inj hs
        obtain ⟨hmark, hbefore⟩ := isPlain_cons.mp hc
        exact .inl ⟨hmark, .named hbefore hn⟩
  · rintro (⟨hmark, h⟩ | ⟨rfl, hn⟩)
    · cases h with
      | plain hc => exact .plain (isPlain_cons.mpr ⟨hmark, hc⟩)
      | named hc hn => exact .named (isPlain_cons.mpr ⟨hmark, hc⟩) hn
    · exact .named isPlain_nil hn

lemma followsPlain_nil : FollowsPlain [] := ⟨[], .plain isPlain_nil, .inl rfl⟩

lemma followsPlain_cons_iff {c : Char} {more : List Char} :
    FollowsPlain (c :: more) ↔
      (c = '/' ∧ FollowsSlash more) ∨ ((c ≠ '/' ∧ c ≠ ':' ∧ c ≠ '*') ∧ FollowsPlain more) ∨
        (c = ':' ∧ ∃ n r, more = n ++ r ∧ IsName n ∧ FollowsName r) := by
  constructor
  · rintro ⟨s, hs, h⟩
    cases s with
    | nil =>
      rcases h with h | ⟨after, h, hafter⟩
      · cases h
      · obtain ⟨rfl, rfl⟩ := List.cons.inj h
        exact .inl ⟨rfl, hafter⟩
    | cons d s =>
      have hcd : c = d ∧ (more = s ∨ ∃ after, more = s ++ '/' :: after ∧ FollowsSlash after) := by
        rcases h with h | ⟨after, h, hafter⟩
        · exact ⟨(List.cons.inj h).1, .inl (List.cons.inj h).2⟩
        · exact ⟨(List.cons.inj h).1, .inr ⟨after, (List.cons.inj h).2, hafter⟩⟩
      obtain ⟨rfl, htail⟩ := hcd
      rcases isSegment_cons_iff.mp hs with ⟨hmark, hs⟩ | ⟨rfl, hn⟩
      · exact .inr (.inl ⟨hmark, s, hs, htail⟩)
      · refine .inr (.inr ⟨rfl, ?_⟩)
        rcases htail with rfl | ⟨after, rfl, hafter⟩
        · exact ⟨more, [], (List.append_nil more).symm, hn, .inl rfl⟩
        · exact ⟨s, '/' :: after, rfl, hn, .inr ⟨after, rfl, hafter⟩⟩
  · rintro (⟨rfl, h⟩ | ⟨hmark, s, hs, h⟩ | ⟨rfl, n, r, rfl, hn, h⟩)
    · exact ⟨[], .plain isPlain_nil, .inr ⟨more, rfl, h⟩⟩
    · refine ⟨c :: s, isSegment_cons_iff.mpr (.inl ⟨hmark, hs⟩), ?_⟩
      rcases h with rfl | ⟨after, rfl, hafter⟩
      · exact .inl rfl
      · exact .inr ⟨after, rfl, hafter⟩
    · refine ⟨':' :: n, isSegment_cons_iff.mpr (.inr ⟨rfl, hn⟩), ?_⟩
      rcases h with rfl | ⟨after, rfl, hafter⟩
      · exact .inl (by rw [List.append_nil])
      · exact .inr ⟨after, rfl, hafter⟩

/-- A name goes as far as the next slash. -/
lemma openName?_eq_some_iff {cs r : List Char} :
    openName? cs = some r ↔ ∃ n, cs = n ++ r ∧ IsName n ∧ (r = [] ∨ ∃ more, r = '/' :: more) := by
  unfold openName?
  dsimp only
  constructor
  · intro h
    split_ifs at h with hbad
    obtain rfl := Option.some.inj h
    have hname : cs.takeWhile (· ≠ '/') ≠ [] ∧
        ∀ c ∈ cs.takeWhile (· ≠ '/'), c ≠ ':' ∧ c ≠ '*' := by simpa using hbad
    refine ⟨_, List.takeWhile_append_dropWhile.symm, ⟨hname.1, fun c hc => ?_⟩, ?_⟩
    · exact ⟨by simpa using List.mem_takeWhile_imp hc, hname.2 c hc⟩
    · have hhead := List.head?_dropWhile_not (· ≠ '/') cs
      cases hr : cs.dropWhile (· ≠ '/') with
      | nil => exact .inl rfl
      | cons d more =>
        rw [hr] at hhead
        simp only [List.head?_cons, decide_not, Bool.not_eq_false', decide_eq_true_eq] at hhead
        exact .inr ⟨more, by rw [hhead]⟩
  · rintro ⟨n, rfl, ⟨hne, hn⟩, hr⟩
    have hplain : ∀ c ∈ n, decide (c ≠ '/') = true := fun c hc => decide_eq_true (hn c hc).1
    have htake : (n ++ r).takeWhile (· ≠ '/') = n := by
      rw [List.takeWhile_append_of_pos hplain]
      rcases hr with rfl | ⟨more, rfl⟩ <;> simp
    have hdrop : (n ++ r).dropWhile (· ≠ '/') = r := by
      rw [List.dropWhile_append_of_pos hplain]
      rcases hr with rfl | ⟨more, rfl⟩ <;> simp
    have hgood : ¬(n.isEmpty || n.any fun c => c = ':' || c = '*') = true := by
      simpa using And.intro hne fun c hc => (hn c hc).2
    rw [htake, hdrop, if_neg hgood]

lemma followsName_iff {cs : List Char} :
    FollowsName cs ↔ (cs = [] ∨ ∃ more, cs = '/' :: more) ∧ FollowsPlain cs := by
  constructor
  · rintro (rfl | ⟨more, rfl, h⟩)
    · exact ⟨.inl rfl, followsPlain_nil⟩
    · exact ⟨.inr ⟨more, rfl⟩, followsPlain_cons_iff.mpr (.inl ⟨rfl, h⟩)⟩
  · rintro ⟨rfl | ⟨more, rfl⟩, h⟩
    · exact .inl rfl
    · rcases followsPlain_cons_iff.mp h with ⟨-, h⟩ | ⟨⟨hne, -⟩, -⟩ | ⟨hc, -⟩
      · exact .inr ⟨more, rfl, h⟩
      · exact (hne rfl).elim
      · cases hc

lemma followsPlain_colon_iff {more : List Char} :
    FollowsPlain (':' :: more) ↔ ∃ r, openName? more = some r ∧ FollowsPlain r := by
  have hcons : FollowsPlain (':' :: more) ↔
      ∃ n r, more = n ++ r ∧ IsName n ∧ FollowsName r := by simp [followsPlain_cons_iff]
  rw [hcons]
  constructor
  · rintro ⟨n, r, hmore, hn, hr⟩
    obtain ⟨hslash, hr⟩ := followsName_iff.mp hr
    exact ⟨r, openName?_eq_some_iff.mpr ⟨n, hmore, hn, hslash⟩, hr⟩
  · rintro ⟨r, hopen, hr⟩
    obtain ⟨n, hmore, hn, hslash⟩ := openName?_eq_some_iff.mp hopen
    exact ⟨n, r, hmore, hn, followsName_iff.mpr ⟨hslash, hr⟩⟩

lemma openName?_eq_some_nil_iff {cs : List Char} : openName? cs = some [] ↔ IsName cs := by
  simp [openName?_eq_some_iff]

lemma length_of_openName? {cs r : List Char} (h : openName? cs = some r) :
    r.length ≤ cs.length := by
  obtain ⟨n, rfl, -⟩ := openName?_eq_some_iff.mp h
  simp

/-- The parts after a character are found if they may follow it. -/
lemma partsAfter?_isSome_iff {previous : Char} {cs : List Char} {fuel : Nat}
    (hfuel : cs.length < fuel) :
    (partsAfter? previous cs fuel).isSome = true ↔
      FollowsPlain cs ∨ (previous = '/' ∧ ∃ n, IsName n ∧ cs = '*' :: n) := by
  induction fuel generalizing previous cs with
  | zero => cases hfuel
  | succ fuel ih =>
    unfold partsAfter?
    split
    · simp [followsPlain_nil]
    · next more =>
      rw [followsPlain_colon_iff]
      cases hopen : openName? more with
      | none => simp
      | some r =>
        have hr : r.length < fuel := by
          have hle := length_of_openName? hopen
          rw [List.length_cons] at hfuel
          omega
        simp [ih hr]
    · next more =>
      have hplain : ¬FollowsPlain ('*' :: more) := by simp [followsPlain_cons_iff]
      split
      · next hopen =>
        have hname := openName?_eq_some_nil_iff.mp hopen
        split_ifs with hp <;> simp [hplain, hname, hp]
      · next hopen =>
        have hname : ¬IsName more := fun h => hopen (openName?_eq_some_nil_iff.mpr h)
        simp [hplain, hname]
    · next c more hcolon hstar =>
      rw [Option.isSome_map, ih (by simpa using hfuel), followsPlain_cons_iff]
      by_cases hc : c = '/'
      · subst hc
        simp [followsSlash_iff]
      · simp [hc, show c ≠ ':' from hcolon, show c ≠ '*' from hstar]

lemma parse?_isSome_iff (path : String) : (parse? path).isSome = true ↔ IsRoutePath path := by
  unfold parse? IsRoutePath
  split
  · next rest h =>
    rw [Option.isSome_map, partsAfter?_isSome_iff (Nat.lt_succ_self _), h]
    simp [followsSlash_iff]
  · next h =>
    simp only [Option.isSome_none, Bool.false_eq_true, false_iff]
    rintro ⟨cs, hcs, -⟩
    exact h cs hcs

/-- A relay can be mounted at a path if and only if the path is a route. -/
theorem ofPath?_isSome_iff (path : String) :
    (Mount.ofPath? path).isSome = true ↔ IsRoutePath path := by
  unfold Mount.ofPath?
  split_ifs with h
  · subst h
    simpa using ⟨[], rfl, .last (.plain isPlain_nil)⟩
  · rw [Option.isSome_map, parse?_isSome_iff]

end GatedRelay.Route
