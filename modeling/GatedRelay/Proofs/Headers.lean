import GatedRelay.Proofs.Encoding
import GatedRelay.Proofs.JsonOrder
import GatedRelay.Web.Request
import Mathlib.Data.List.Nodup

/-!
# Headers of a request

A request is taken up with each name of its headers once, in lower case, and with the first value
of that name. So it does not matter in which order headers of different names come.
-/

namespace GatedRelay.RequestContext

/-- The headers whose name is the given one in lower case. -/
def headersNamed (n : String) (headers : List (String × Bytes)) : List (String × Bytes) :=
  headers.filter fun h => h.1.toList.map Char.toLower == n.toList

/-- Each name once, in order. -/
def HeadersSorted (headers : List (String × String)) : Prop :=
  headers.Pairwise fun h h' => h.1 < h'.1

variable {headers headers' : List (String × String)} {n : String}

/-! ### Lookups -/

lemma header?_cons (n : String) (h : String × String) (rest : List (String × String)) :
    header? n (h :: rest) = if h.1 = n then some h.2 else header? n rest := by
  by_cases hn : h.1 = n
  · rw [if_pos hn, header?, List.find?_cons_of_pos (by simpa using hn)]
    rfl
  · rw [if_neg hn, header?, List.find?_cons_of_neg (by simpa using hn)]
    rfl

lemma header?_putHeader (n name value : String) (headers : List (String × String)) :
    header? n (putHeader name value headers) =
      if name = n then some value else header? n headers := by
  induction headers with
  | nil => rw [putHeader, header?_cons]
  | cons h rest ih =>
    rw [putHeader]
    by_cases hlt : name < h.1
    · rw [if_pos hlt, header?_cons]
    rw [if_neg hlt]
    by_cases heq : name = h.1
    · subst heq
      rw [if_pos rfl, header?_cons, header?_cons]
      by_cases hn : h.1 = n
      · rw [if_pos hn, if_pos hn]
      · rw [if_neg hn, if_neg hn, if_neg hn]
    · rw [if_neg heq, header?_cons, ih, header?_cons]
      by_cases hn : h.1 = n
      · have hne : name ≠ n := fun hname => heq (hname.trans hn.symm)
        rw [if_pos hn, if_pos hn, if_neg hne]
      · rw [if_neg hn, if_neg hn]

lemma headersNamed_cons (n : String) (h : String × Bytes) (rest : List (String × Bytes)) :
    headersNamed n (h :: rest) =
      if h.1.toList.map Char.toLower = n.toList then h :: headersNamed n rest
      else headersNamed n rest := by
  simp only [headersNamed, List.filter_cons, beq_iff_eq]

/-- Neighbours of different names may change places. -/
lemma headersNamed_swap {h h' : String × Bytes}
    (hne : h.1.toList.map Char.toLower ≠ h'.1.toList.map Char.toLower) (n : String)
    (rest : List (String × Bytes)) :
    headersNamed n (h :: h' :: rest) = headersNamed n (h' :: h :: rest) := by
  simp only [headersNamed_cons]
  by_cases hn : h.1.toList.map Char.toLower = n.toList
  · have hn' : ¬h'.1.toList.map Char.toLower = n.toList := fun hn' => hne (hn.trans hn'.symm)
    rw [if_pos hn, if_neg hn', if_neg hn', if_pos hn]
  · rw [if_neg hn, if_neg hn]

/-- The first header of a name gives the value. -/
lemma header?_firstHeaders (n : String) (headers : List (String × Bytes)) :
    header? n (firstHeaders headers) =
      (headersNamed n headers).head?.map fun h => Utf8.decodeLossy h.2 := by
  induction headers with
  | nil => rfl
  | cons h rest ih =>
    rw [firstHeaders, header?_putHeader, ih, headersNamed_cons]
    by_cases hn : headerName h.1 = n
    · rw [if_pos hn, if_pos (headerName_eq_iff.mp hn)]
      rfl
    · rw [if_neg hn, if_neg (mt headerName_eq_iff.mpr hn)]

/-! ### Order -/

lemma mem_putHeader {name value : String} {h : String × String}
    (hh : h ∈ putHeader name value headers) : h = (name, value) ∨ h ∈ headers := by
  induction headers with
  | nil => exact .inl (List.mem_singleton.mp hh)
  | cons g rest ih =>
    rw [putHeader] at hh
    split_ifs at hh with hlt heq
    · exact List.mem_cons.mp hh
    · exact (List.mem_cons.mp hh).imp_right (List.mem_cons_of_mem _)
    · rcases List.mem_cons.mp hh with rfl | hh
      · exact .inr List.mem_cons_self
      · exact (ih hh).imp_right (List.mem_cons_of_mem _)

lemma HeadersSorted.put (hs : HeadersSorted headers) (name value : String) :
    HeadersSorted (putHeader name value headers) := by
  induction headers with
  | nil => exact List.pairwise_singleton _ _
  | cons g rest ih =>
    obtain ⟨hg, hrest⟩ := List.pairwise_cons.mp hs
    rw [putHeader]
    split_ifs with hlt heq
    · refine List.pairwise_cons.mpr ⟨fun h hh => ?_, hs⟩
      rcases List.mem_cons.mp hh with rfl | hh
      · exact hlt
      · exact String.lt_trans hlt (hg h hh)
    · exact List.pairwise_cons.mpr ⟨fun h hh => heq ▸ hg h hh, hrest⟩
    · refine List.pairwise_cons.mpr ⟨fun h hh => ?_, ih hrest⟩
      rcases mem_putHeader hh with rfl | hh
      · exact JsonFields.lt_of_not_lt_of_ne hlt heq
      · exact hg h hh

lemma firstHeaders_sorted (headers : List (String × Bytes)) :
    HeadersSorted (firstHeaders headers) := by
  induction headers with
  | nil => exact List.Pairwise.nil
  | cons h rest ih => exact ih.put _ _

namespace HeadersSorted

lemma names_nodup (hs : HeadersSorted headers) : (headers.map Prod.fst).Nodup := by
  rw [List.Nodup, List.pairwise_map]
  refine hs.imp fun {h h'} hlt heq => ?_
  rw [heq] at hlt
  exact String.lt_irrefl _ hlt

lemma mem_iff (hs : HeadersSorted headers) {v : String} :
    (n, v) ∈ headers ↔ header? n headers = some v := by
  induction headers with
  | nil => simp [header?]
  | cons h rest ih =>
    obtain ⟨hh, hrest⟩ := List.pairwise_cons.mp hs
    rw [List.mem_cons, header?_cons, ih hrest]
    by_cases hn : h.1 = n
    · have hnot : header? n rest ≠ some v := by
        intro hv
        exact String.lt_irrefl _ (hn ▸ hh _ ((ih hrest).mpr hv))
      subst hn
      simp [hnot, Prod.ext_iff, eq_comm]
    · have hne : (n, v) ≠ h := fun heq => hn (heq ▸ rfl)
      rw [if_neg hn, or_iff_right hne]

/-- Headers in order are determined by what is found under each name. -/
lemma eq_of_header? (hs : HeadersSorted headers) (hs' : HeadersSorted headers')
    (h : ∀ n, header? n headers = header? n headers') : headers = headers' := by
  have hperm : headers.Perm headers' := by
    have hnodup : headers.Nodup := List.Nodup.of_map _ hs.names_nodup
    have hnodup' : headers'.Nodup := List.Nodup.of_map _ hs'.names_nodup
    refine (List.perm_ext_iff_of_nodup hnodup hnodup').mpr ?_
    rintro ⟨n, v⟩
    rw [hs.mem_iff, hs'.mem_iff, h]
  have hasymm : ∀ a b, a ∈ headers → b ∈ headers' → a.1 < b.1 → b.1 < a.1 → a = b :=
    fun a b _ _ hab hba => (String.lt_asymm hab hba).elim
  exact hperm.eq_of_pairwise hasymm hs hs'

end HeadersSorted

/-! ### Contexts -/

variable {r : Request} {now : Int}

lemma eq_firstHeaders_of_build {c : RequestContext} (h : build r now = .ok c) :
    c.headers = firstHeaders r.headers := by
  obtain ⟨_, _, _, -, -, -, -, rfl⟩ := build_eq_ok_iff.mp h
  rfl

lemma build_congr {headers : List (String × Bytes)}
    (h : firstHeaders headers = firstHeaders r.headers) :
    build { r with headers := headers } now = build r now := by
  unfold build
  rw [h]

lemma firstHeaders_congr {headers headers' : List (String × Bytes)}
    (h : ∀ n, headersNamed n headers = headersNamed n headers') :
    firstHeaders headers = firstHeaders headers' := by
  refine (firstHeaders_sorted headers).eq_of_header? (firstHeaders_sorted headers') fun n => ?_
  rw [header?_firstHeaders, header?_firstHeaders, h]

lemma mem_firstHeaders_iff {headers : List (String × Bytes)} {v : String} :
    (n, v) ∈ firstHeaders headers ↔
      ∃ before name value after, headers = before ++ (name, value) :: after ∧
        name.toList.map Char.toLower = n.toList ∧
        (∀ h ∈ before, h.1.toList.map Char.toLower ≠ n.toList) ∧ Utf8.decodeLossy value = v := by
  rw [(firstHeaders_sorted headers).mem_iff, header?_firstHeaders, headersNamed, List.head?_filter,
    Option.map_eq_some_iff]
  simp only [List.find?_eq_some_iff_append]
  constructor
  · rintro ⟨⟨name, value⟩, ⟨hname, before, after, heq, hbefore⟩, hv⟩
    exact ⟨before, name, value, after, heq, by simpa using hname, by simpa using hbefore, hv⟩
  · rintro ⟨before, name, value, after, heq, hname, hbefore, hv⟩
    exact ⟨(name, value), ⟨by simpa using hname, before, after, heq, by simpa using hbefore⟩, hv⟩

lemma mem_names_firstHeaders_iff {headers : List (String × Bytes)} :
    n ∈ (firstHeaders headers).map Prod.fst ↔
      ∃ h ∈ headers, h.1.toList.map Char.toLower = n.toList := by
  constructor
  · intro hn
    obtain ⟨⟨_, v⟩, hmem, rfl⟩ := List.mem_map.mp hn
    obtain ⟨before, name, value, after, heq, hname, -⟩ := mem_firstHeaders_iff.mp hmem
    exact ⟨(name, value), by simp [heq], hname⟩
  · rintro ⟨h, hmem, hname⟩
    have hnamed : h ∈ headersNamed n headers := List.mem_filter.mpr ⟨hmem, by simpa using hname⟩
    obtain ⟨g, rest, hg⟩ := List.exists_cons_of_ne_nil (List.ne_nil_of_mem hnamed)
    have hv : header? n (firstHeaders headers) = some (Utf8.decodeLossy g.2) := by
      rw [header?_firstHeaders, hg]
      rfl
    exact List.mem_map.mpr ⟨_, (firstHeaders_sorted headers).mem_iff.mpr hv, rfl⟩

/-- A context has the names of the headers that occur, in lower case, each once and with the first
value of that name. Nothing in it depends on how headers of different names are ordered. -/
theorem headers_of_build (r : Request) (now : Int) :
    (∀ c, build r now = .ok c →
      (c.headers.map Prod.fst).Nodup ∧
      (∀ n, n ∈ c.headers.map Prod.fst ↔
        ∃ h ∈ r.headers, h.1.toList.map Char.toLower = n.toList) ∧
      ∀ n v, (n, v) ∈ c.headers ↔
        ∃ before name value after, r.headers = before ++ (name, value) :: after ∧
          name.toList.map Char.toLower = n.toList ∧
          (∀ h ∈ before, h.1.toList.map Char.toLower ≠ n.toList) ∧
          Utf8.decodeLossy value = v) ∧
    ∀ headers, (∀ n, headersNamed n headers = headersNamed n r.headers) →
      build { r with headers := headers } now = build r now := by
  refine ⟨fun c hc => ?_, fun headers h => build_congr (firstHeaders_congr h)⟩
  rw [eq_firstHeaders_of_build hc]
  exact ⟨(firstHeaders_sorted r.headers).names_nodup, fun n => mem_names_firstHeaders_iff,
    fun n v => mem_firstHeaders_iff⟩

/-- A name that is written in three ways is one name, and the first of its values counts. -/
theorem headers_of_build_mixedCase :
    let sig : String × Bytes := ("X-Sig", Utf8.ofString "a")
    let accept : String × Bytes := ("Accept", Utf8.ofString "b")
    let more : List (String × Bytes) := [("x-sig", Utf8.ofString "c"), ("X-SIG", Utf8.ofString "d")]
    let r : Request := ⟨"192.0.2.7:4000", "POST", ⟨none, "/", none⟩, sig :: accept :: more, [120]⟩
    ∃ c, build r 0 = .ok c ∧
      (∀ n, n ∈ c.headers.map Prod.fst ↔ n = "x-sig" ∨ n = "accept") ∧
      ("x-sig", "a") ∈ c.headers ∧
      build { r with headers := accept :: sig :: more } 0 = build r 0 := by
  intro sig accept more r
  obtain ⟨hparts, horder⟩ := headers_of_build r 0
  have hread : readBody (.ofContentType (header? "content-type" (firstHeaders r.headers))) r.body =
      .ok (none, none) := by
    have hnone : headersNamed "content-type" r.headers = [] := by decide
    rw [header?_firstHeaders, hnone]
    rfl
  obtain ⟨c, hc⟩ : ∃ c, build r 0 = .ok c :=
    ⟨_, build_eq_ok_iff.mpr
      ⟨"192.0.2.7", none, none, by decide +kernel, rfl, by decide, hread, rfl⟩⟩
  obtain ⟨-, hnames, hvalues⟩ := hparts c hc
  have hsig : ("x-sig", "a") ∈ c.headers :=
    (hvalues _ _).mpr ⟨[], "X-Sig", Utf8.ofString "a", accept :: more, rfl, by decide, by simp,
      Utf8.decodeLossy_ofString "a"⟩
  refine ⟨c, hc, fun n => ?_, hsig, horder _ fun n => ?_⟩
  · have hlower : "X-Sig".toList.map Char.toLower = "x-sig".toList ∧
        "x-sig".toList.map Char.toLower = "x-sig".toList ∧
        "X-SIG".toList.map Char.toLower = "x-sig".toList ∧
        "Accept".toList.map Char.toLower = "accept".toList := by decide
    obtain ⟨h₁, h₂, h₃, h₄⟩ := hlower
    rw [hnames]
    simp only [r, sig, accept, more, List.mem_cons, List.not_mem_nil, or_false, exists_eq_or_imp,
      exists_eq_left, h₁, h₂, h₃, h₄, String.toList_inj]
    tauto
  · exact headersNamed_swap (by decide) n more

end GatedRelay.RequestContext
