import Mathlib.Data.List.Chain
import Mathlib.Data.List.Sort
import RqtJtc.Names

/-!
# ROS names

`_resolve_controller_ns` and `_jtc_joint_names` take names apart with
`str.split` and put them together with `str.join`.  This module moves both to
lists of characters once, where `split` is `List.splitOn` and `join` is
`List.intercalate`, and proves there the two laws the plugin relies on.

A well-formed absolute ROS name is `/` followed by its segments joined by `/`,
each segment nonempty and free of `/` (`absChars`).  `_resolve_controller_ns`
keeps every segment of the controller manager's namespace but the last and
appends the controller's name: the controller is a sibling of its manager.
`_jtc_joint_names` keeps, in order of first occurrence, the prefix of each
interface before its last `/`.

## Main definitions

* `WellFormedName`, `nameSegments`, `parentNs`, `lastSegment` — ROS names as
  the docstring of `_resolve_controller_ns` uses them.
* `absChars` — the absolute name with given segments, on characters.
* `firstOccurrences` — first-occurrence deduplication, the loop of
  `_jtc_joint_names` on any list.

## Main statements

* `toList_controllerNs` — the namespace `_resolve_controller_ns` builds, segment
  by segment.
* `resolveControllerNs_sibling` — the controller lives next to its manager.
* `jtcJointNames_eq` — `_jtc_joint_names` is `firstOccurrences` of the stripped
  interfaces.
* `jtcJointNames_first_occurrences` — joint names are the stripped interfaces,
  each at its first occurrence.
-/

namespace RqtJtc

/-! ## `str.split` and `str.join` on characters -/

/-- The model's `split` is `List.splitOn`. -/
theorem splitChars_eq_splitOn (sep : Char) (cs : List Char) :
    splitChars sep cs = cs.splitOn sep := by
  induction cs with
  | nil => rfl
  | cons c cs ih =>
    obtain ⟨w, ws, hw⟩ := List.exists_cons_of_ne_nil (List.splitOnP_ne_nil (· == sep) cs)
    simp only [List.splitOn] at ih ⊢
    rw [splitChars, ih, List.splitOnP_cons, hw]
    by_cases hc : c = sep <;> simp [hc]

theorem pySplit_eq (s : String) (sep : Char) :
    pySplit s sep = (s.toList.splitOn sep).map String.mk := by
  rw [pySplit, splitChars_eq_splitOn]

/-- No piece of a split holds the separator. -/
theorem not_mem_of_mem_splitOn {sep : Char} {cs p : List Char} (hp : p ∈ cs.splitOn sep) :
    sep ∉ p := by
  induction cs generalizing p with
  | nil => simp_all
  | cons c cs ih =>
    obtain ⟨w, ws, hw⟩ := List.exists_cons_of_ne_nil (List.splitOnP_ne_nil (· == sep) cs)
    simp only [List.splitOn] at ih hp hw
    rw [List.splitOnP_cons, hw] at hp
    by_cases hc : c = sep
    · simp only [hc, beq_self_eq_true, if_true, List.mem_cons] at hp
      rcases hp with rfl | hp
      · simp
      · exact ih (by rw [hw]; exact List.mem_cons.2 hp)
    · simp only [beq_iff_eq, hc, if_false, List.modifyHead_cons, List.mem_cons] at hp
      rcases hp with rfl | hp
      · simp only [List.mem_cons, not_or]
        exact ⟨Ne.symm hc, ih (by simp [hw])⟩
      · exact ih (by simp [hw, hp])

theorem intercalate_cons_cons (sep a b : List Char) (l : List (List Char)) :
    sep.intercalate (a :: b :: l) = a ++ sep ++ sep.intercalate (b :: l) := by
  simp only [List.intercalate, List.intersperse_cons_cons, List.flatten_cons, List.append_assoc]

theorem intercalate_singleton (sep a : List Char) : sep.intercalate [a] = a := by
  simp [List.intercalate]

theorem intercalate_append (sep : List Char) {A B : List (List Char)} (hA : A ≠ []) (hB : B ≠ []) :
    sep.intercalate (A ++ B) = sep.intercalate A ++ sep ++ sep.intercalate B := by
  induction A with
  | nil => exact absurd rfl hA
  | cons a A ih =>
    rcases A with _ | ⟨a', A⟩
    · obtain ⟨b, B, rfl⟩ := List.exists_cons_of_ne_nil hB
      simp [intercalate_cons_cons, intercalate_singleton]
    · rw [List.cons_append, List.cons_append, intercalate_cons_cons, ← List.cons_append,
        ih (List.cons_ne_nil _ _), intercalate_cons_cons]
      simp only [List.append_assoc]

private theorem intercalateGo_toList (acc s : String) (l : List String) :
    (String.intercalate.go acc s l).toList =
      acc.toList ++ (l.map fun a => s.toList ++ a.toList).flatten := by
  induction l generalizing acc with
  | nil => simp [String.intercalate.go]
  | cons a l ih =>
    simp only [String.intercalate.go, ih, List.map_cons, List.flatten_cons]
    simp [String.toList, List.append_assoc]

/-- `sep.join(l)` is `List.intercalate` on the characters. -/
theorem toList_intercalate (s : String) (l : List String) :
    (s.intercalate l).toList = s.toList.intercalate (l.map String.toList) := by
  rcases l with _ | ⟨a, l⟩
  · rfl
  · rw [String.intercalate, intercalateGo_toList]
    induction l generalizing a with
    | nil => simp [intercalate_singleton]
    | cons b l ih =>
      have hb := ih b
      simp only [List.map_cons] at hb ⊢
      rw [intercalate_cons_cons, ← hb]
      simp [List.append_assoc]

/-! ## ROS names -/

/-- A well-formed absolute ROS name: it starts with `/`, contains no empty
segment `//`, and does not end with `/` unless it is `/` itself. -/
def WellFormedName (s : String) : Prop :=
  s.toList.head? = some '/' ∧ ¬['/', '/'] <:+: s.toList ∧
    (s.toList.getLast? = some '/' → s = "/")

instance (s : String) : Decidable (WellFormedName s) :=
  inferInstanceAs (Decidable (_ ∧ _ ∧ _))

/-- The segments of a name on its characters: the nonempty pieces between its
`/`s. -/
def segs (cs : List Char) : List (List Char) := (cs.splitOn '/').filter (· ≠ [])

/-- The segments of a name. -/
def nameSegments (s : String) : List String := (segs s.toList).map String.mk

/-- The parent namespace: the name without its last segment, so `/` for `''`,
`/` and a single-segment name. -/
def parentNs (s : String) : String := "/" ++ "/".intercalate (nameSegments s).dropLast

/-- The last segment of a name; `""` for the root. -/
def lastSegment (s : String) : String := (nameSegments s).getLastD ""

/-- Segments a name can be built from: nonempty, without `/`. -/
def Segments (Q : List (List Char)) : Prop := ∀ q ∈ Q, q ≠ [] ∧ '/' ∉ q

/-- The absolute name with segments `Q`, on characters: `/` for no segment. -/
def absChars (Q : List (List Char)) : List Char := '/' :: ['/'].intercalate Q

theorem segments_segs (cs : List Char) : Segments (segs cs) := fun q hq => by
  simp only [segs, List.mem_filter, decide_eq_true_eq] at hq
  exact ⟨hq.2, not_mem_of_mem_splitOn hq.1⟩

theorem Segments.append {P Q : List (List Char)} (hP : Segments P) (hQ : Segments Q) :
    Segments (P ++ Q) := fun q hq => (List.mem_append.1 hq).elim (hP q) (hQ q)

theorem Segments.dropLast {Q : List (List Char)} (hQ : Segments Q) : Segments Q.dropLast :=
  fun q hq => hQ q (List.dropLast_subset Q hq)

theorem absChars_append_singleton (Q : List (List Char)) (q : List Char) :
    absChars (Q ++ [q]) = (if Q = [] then [] else absChars Q) ++ '/' :: q := by
  split
  · subst_vars; simp [absChars, intercalate_singleton]
  · rw [absChars, intercalate_append _ ‹_› (List.cons_ne_nil _ _), intercalate_singleton]
    simp [absChars]

theorem splitOn_slash_cons (r : List Char) : ('/' :: r).splitOn '/' = [] :: r.splitOn '/' := by
  simp [List.splitOn, List.splitOnP_cons]

theorem splitOn_absChars {Q : List (List Char)} (hQ : Segments Q) (hne : Q ≠ []) :
    (absChars Q).splitOn '/' = [] :: Q := by
  rw [absChars, splitOn_slash_cons, List.splitOn_intercalate _ '/' (fun q hq => (hQ q hq).2) hne]

/-- Splitting an absolute name gives back its segments. -/
theorem segs_absChars {Q : List (List Char)} (hQ : Segments Q) : segs (absChars Q) = Q := by
  rcases Q with _ | ⟨q, Q⟩
  · rfl
  · rw [segs, splitOn_absChars hQ (List.cons_ne_nil q Q), List.filter_cons_of_neg (by simp),
      List.filter_eq_self.2 fun q hq => by simpa using (hQ q hq).1]

private theorem chain_cons_of_slash_free (c : Char) {q : List Char} (h : '/' ∉ q) :
    (c :: q).Chain' fun x y => ¬(x = '/' ∧ y = '/') := by
  induction q generalizing c with
  | nil => exact List.chain'_singleton c
  | cons d q ih =>
    simp only [List.mem_cons, not_or] at h
    exact List.Chain'.cons (fun hcd => h.1 hcd.2.symm) (ih d h.2)

private theorem chain_absChars {Q : List (List Char)} (hQ : Segments Q) :
    (absChars Q).Chain' fun x y => ¬(x = '/' ∧ y = '/') := by
  induction Q with
  | nil => exact List.chain'_singleton _
  | cons q Q ih =>
    have hq := hQ q (List.mem_cons_self q Q)
    rcases Q with _ | ⟨q', Q⟩
    · simpa [absChars, intercalate_singleton] using chain_cons_of_slash_free '/' hq.2
    · have heq : absChars (q :: q' :: Q) = ('/' :: q) ++ absChars (q' :: Q) := by
        simp [absChars, intercalate_cons_cons]
      rw [heq, List.chain'_append]
      refine ⟨chain_cons_of_slash_free '/' hq.2, ih fun x hx => hQ x (List.mem_cons_of_mem q hx),
        fun x hx y _ hxy => hq.2 ?_⟩
      obtain ⟨c, q, rfl⟩ := List.exists_cons_of_ne_nil hq.1
      exact hxy.1 ▸ List.mem_of_getLast?_eq_some (by simpa [List.getLast?_cons_cons] using hx)

/-- An absolute name built from segments is well formed. -/
theorem wellFormed_absChars {Q : List (List Char)} (hQ : Segments Q) :
    WellFormedName (String.mk (absChars Q)) := by
  refine ⟨rfl, fun h => ?_, fun hl => ?_⟩
  · have := List.Chain'.infix (chain_absChars hQ) h
    simp at this
  · rcases List.eq_nil_or_concat Q with rfl | ⟨P, q, rfl⟩
    · rfl
    · rw [List.concat_eq_append] at hQ hl
      have hq := hQ q (by simp)
      have : (absChars (P ++ [q])).getLast? = q.getLast? := by
        rw [absChars_append_singleton, List.getLast?_append]
        rcases q with _ | ⟨c, q⟩
        · exact absurd rfl hq.1
        · simp [List.getLast?_cons]
      exact absurd (List.mem_of_getLast?_eq_some (this ▸ hl)) hq.2

/-- An empty piece of a split comes from a `/` at either end, or from `//`. -/
theorem empty_mem_splitOn {r : List Char} (h : [] ∈ r.splitOn '/') :
    r = [] ∨ r.head? = some '/' ∨ r.getLast? = some '/' ∨ ['/', '/'] <:+: r := by
  obtain ⟨A, B, hAB⟩ := List.append_of_mem h
  have hr : r = ['/'].intercalate (A ++ [] :: B) := hAB ▸ (List.intercalate_splitOn r '/').symm
  rcases A with _ | ⟨a, A⟩ <;> rcases B with _ | ⟨b, B⟩
  · exact .inl (by simpa [intercalate_singleton] using hr)
  · exact .inr (.inl (by simp [hr, intercalate_cons_cons]))
  · refine .inr (.inr (.inl ?_))
    rw [hr, intercalate_append _ (List.cons_ne_nil _ _) (List.cons_ne_nil _ _)]
    simp [intercalate_singleton]
  · refine .inr (.inr (.inr ⟨['/'].intercalate (a :: A), ['/'].intercalate (b :: B), ?_⟩))
    rw [hr, intercalate_append _ (List.cons_ne_nil _ _) (List.cons_ne_nil _ _),
      intercalate_cons_cons]
    simp

/-- A well-formed name is the absolute name of its segments. -/
theorem absChars_segs {s : String} (hs : WellFormedName s) : absChars (segs s.toList) = s.toList := by
  obtain ⟨hhead, hinf, hlast⟩ := hs
  obtain ⟨r, hr⟩ := List.head?_eq_some_iff.1 hhead
  rw [hr, segs, splitOn_slash_cons, List.filter_cons_of_neg (by simp)]
  by_cases hr0 : r = []
  · subst hr0; rfl
  have hpieces : ∀ p ∈ r.splitOn '/', p ≠ [] := by
    rintro p hp rfl
    rcases empty_mem_splitOn hp with h | h | h | h
    · exact hr0 h
    · obtain ⟨r', rfl⟩ := List.head?_eq_some_iff.1 h
      exact hinf (hr ▸ ⟨[], r', rfl⟩)
    · have : s.toList = ['/'] := by rw [hlast (by rw [hr, List.getLast?_cons, h]; rfl)]; rfl
      exact hr0 (List.cons.inj (hr ▸ this)).2
    · exact hinf (hr ▸ h.trans (List.infix_cons (List.infix_refl r)))
  rw [List.filter_eq_self.2 fun p hp => by simpa using hpieces p hp, absChars,
    List.intercalate_splitOn r]

theorem wellFormedName_of_toList {s : String} {Q : List (List Char)} (hQ : Segments Q)
    (h : s.toList = absChars Q) : WellFormedName s := by
  obtain ⟨cs⟩ := s
  cases h
  exact wellFormed_absChars hQ

theorem toList_append_string (s t : String) : (s ++ t).toList = s.toList ++ t.toList := rfl

theorem toList_comp_mk : String.toList ∘ String.mk = id := rfl

/-- The parent namespace is the absolute name of every segment but the last. -/
theorem toList_parentNs (s : String) : (parentNs s).toList = absChars (segs s.toList).dropLast := by
  rw [parentNs, toList_append_string, toList_intercalate, nameSegments, ← List.map_dropLast,
    List.map_map, toList_comp_mk, List.map_id]
  rfl

/-! ## `_resolve_controller_ns` -/

/-- `"/".join` of an empty first piece and `D`: the absolute name of `D`, or
nothing for no segment. -/
theorem intercalate_nil_cons (D : List (List Char)) :
    ['/'].intercalate ([] :: D) = if D = [] then [] else absChars D := by
  rcases D with _ | ⟨d, D⟩
  · rfl
  · simp [intercalate_cons_cons, absChars]

theorem absChars_ne_root {Q : List (List Char)} (hQ : Segments Q) (hne : Q ≠ []) :
    absChars Q ≠ ['/'] := by
  obtain ⟨q, Q, rfl⟩ := List.exists_cons_of_ne_nil hne
  obtain ⟨c, q, rfl⟩ := List.exists_cons_of_ne_nil (hQ _ (List.mem_cons_self _ _)).1
  rcases Q with _ | ⟨q', Q⟩ <;> simp [absChars, intercalate_singleton, intercalate_cons_cons]

theorem rsplitHead_of_two_le {s : String} (h : 2 ≤ (pySplit s '/').length) :
    rsplitHead s = "/".intercalate (pySplit s '/').dropLast := by
  unfold rsplitHead
  split
  · simp_all
  · rfl

/-- `cm_ns.rsplit("/", 1)[0]` of an absolute name: `"/".join` of the empty piece
before its first `/` and every segment but the last. -/
theorem toList_rsplitHead {Q : List (List Char)} (hQ : Segments Q) :
    (rsplitHead (String.mk (absChars Q))).toList = ['/'].intercalate ([] :: Q.dropLast) := by
  rcases Q with _ | ⟨q, Q⟩
  · rfl
  · have hsplit : pySplit (String.mk (absChars (q :: Q))) '/' = ([] :: q :: Q).map String.mk := by
      rw [pySplit_eq]
      exact congrArg _ (splitOn_absChars hQ (List.cons_ne_nil q Q))
    rw [rsplitHead_of_two_le (by simp [hsplit]), hsplit, toList_intercalate, ← List.map_dropLast,
      List.map_map, toList_comp_mk, List.map_id, List.dropLast_cons_of_ne_nil (List.cons_ne_nil q Q)]
    rfl

/-- The namespace `_resolve_controller_ns` builds keeps every segment of the
manager's namespace but the last, then the controller's name. -/
theorem toList_controllerNs {cmNs : String} (name : String) (hcm : cmNs = "" ∨ WellFormedName cmNs) :
    (controllerNs cmNs name).toList = absChars ((segs cmNs.toList).dropLast ++ [name.toList]) := by
  have hns : (rsplitHead cmNs).toList = ['/'].intercalate ([] :: (segs cmNs.toList).dropLast) := by
    rcases hcm with rfl | hwf
    · rfl
    · have := toList_rsplitHead (segments_segs cmNs.toList)
      rwa [absChars_segs hwf] at this
  rw [intercalate_nil_cons] at hns
  have hroot : rsplitHead cmNs ≠ "/" := fun h => by
    rw [h] at hns
    split at hns
    · exact absurd hns (by decide)
    · exact absChars_ne_root (segments_segs _).dropLast ‹_› hns.symm
  simp only [controllerNs, ne_eq, hroot, not_false_eq_true, if_true]
  rw [toList_append_string, toList_append_string, hns, absChars_append_singleton]
  simp

theorem segments_singleton {s : String} (hs : s ≠ "") (hslash : '/' ∉ s.toList) :
    Segments [s.toList] := by
  simpa [Segments] using ⟨fun h => hs (String.ext h), hslash⟩

/-- The controller's namespace is a well-formed absolute name, named after the
controller, in the parent namespace of its manager; so are the state and command
topics the plugin derives from it. -/
theorem resolveControllerNs_sibling {cmNs name : String} (hcm : cmNs = "" ∨ WellFormedName cmNs)
    (hn : name ≠ "") (hslash : '/' ∉ name.toList) :
    ∃ ns, resolveControllerNs cmNs name = .ok ns ∧
      WellFormedName ns ∧ lastSegment ns = name ∧ parentNs ns = parentNs cmNs ∧
      ∀ suffix ∈ ["controller_state", "joint_trajectory"],
        WellFormedName (ns ++ "/" ++ suffix) ∧
          nameSegments (ns ++ "/" ++ suffix) = nameSegments (parentNs cmNs) ++ [name, suffix] := by
  have hD : Segments (segs cmNs.toList).dropLast := (segments_segs _).dropLast
  have hQ := hD.append (segments_singleton hn hslash)
  have hns := toList_controllerNs name hcm
  have hsegs : nameSegments (controllerNs cmNs name) =
      (segs cmNs.toList).dropLast.map String.mk ++ [name] := by
    rw [nameSegments, hns, segs_absChars hQ, List.map_append]
    rfl
  refine ⟨_, if_neg hn, wellFormedName_of_toList hQ hns, ?_, ?_, fun suffix hsuffix => ?_⟩
  · rw [lastSegment, hsegs, List.getLastD_concat]
  · rw [parentNs, parentNs, hsegs, List.dropLast_concat, nameSegments, List.map_dropLast]
  · have hsuf : Segments [suffix.toList] := by
      simp only [List.mem_cons, List.mem_singleton, List.not_mem_nil, or_false] at hsuffix
      rcases hsuffix with rfl | rfl <;> exact segments_singleton (by decide) (by decide)
    have htopic : (controllerNs cmNs name ++ "/" ++ suffix).toList =
        absChars ((segs cmNs.toList).dropLast ++ [name.toList] ++ [suffix.toList]) := by
      rw [absChars_append_singleton, if_neg (by simp), ← hns, toList_append_string,
        toList_append_string, List.append_assoc]
      rfl
    refine ⟨wellFormedName_of_toList (hQ.append hsuf) htopic, ?_⟩
    rw [nameSegments, nameSegments, htopic, segs_absChars (hQ.append hsuf), toList_parentNs,
      segs_absChars hD]
    simp

/-- The docstring's first case: `/path/to/controller_manager` and `foo`. -/
theorem resolveControllerNs_sibling_path :
    let cmNs := "/path/to/controller_manager"
    ((cmNs = "" ∨ WellFormedName cmNs) ∧ "foo" ≠ "" ∧ '/' ∉ "foo".toList) ∧
      ∃ ns, resolveControllerNs cmNs "foo" = .ok ns ∧
        WellFormedName ns ∧ lastSegment ns = "foo" ∧ parentNs ns = parentNs cmNs ∧
        ∀ suffix ∈ ["controller_state", "joint_trajectory"],
          WellFormedName (ns ++ "/" ++ suffix) ∧
            nameSegments (ns ++ "/" ++ suffix) = nameSegments (parentNs cmNs) ++ ["foo", suffix] := by
  intro cmNs
  have hcm : cmNs = "" ∨ WellFormedName cmNs := .inr (by decide)
  have hn : "foo" ≠ "" := by decide
  have hslash : '/' ∉ "foo".toList := by decide
  exact ⟨⟨hcm, hn, hslash⟩, resolveControllerNs_sibling hcm hn hslash⟩

/-! ## `_jtc_joint_names` -/

/-- `"/".join(interface.split("/")[:-1])` on characters. -/
theorem toList_stripInterface (i : String) :
    (stripInterface i).toList = ['/'].intercalate (i.toList.splitOn '/').dropLast := by
  rw [stripInterface, pySplit_eq, toList_intercalate, ← List.map_dropLast, List.map_map,
    toList_comp_mk, List.map_id]
  rfl

/-- An interface without `/` strips to the empty name. -/
theorem stripInterface_of_not_mem {i : String} (h : '/' ∉ i.toList) : stripInterface i = "" := by
  apply String.ext
  change (stripInterface i).toList = []
  rw [toList_stripInterface, List.splitOn,
    List.splitOnP_eq_single (· == '/') _ fun c hc hc' => h (beq_iff_eq.1 hc' ▸ hc)]
  rfl

/-- An interface with a `/` is its stripped name, a `/`, and a last segment
without `/`: the stripped name is the prefix before the last `/`. -/
theorem stripInterface_of_mem {i : String} (h : '/' ∈ i.toList) :
    ∃ t, '/' ∉ t.toList ∧ i = stripInterface i ++ "/" ++ t := by
  obtain ⟨P, t, hP⟩ := (List.eq_nil_or_concat (i.toList.splitOn '/')).resolve_left
    (List.splitOnP_ne_nil _ _)
  rw [List.concat_eq_append] at hP
  have ht : '/' ∉ t :=
    not_mem_of_mem_splitOn (hP ▸ List.mem_append_right P (List.mem_singleton_self t))
  have hi := List.intercalate_splitOn i.toList '/'
  rw [hP] at hi
  rcases P with _ | ⟨p, P⟩
  · rw [List.nil_append, intercalate_singleton] at hi
    exact absurd (hi ▸ h) ht
  · refine ⟨String.mk t, ht, String.ext ?_⟩
    change i.toList = (stripInterface i ++ "/" ++ String.mk t).toList
    rw [intercalate_append _ (List.cons_ne_nil p P) (List.cons_ne_nil t []),
      intercalate_singleton] at hi
    rw [toList_append_string, toList_append_string, toList_stripInterface, hP, List.dropLast_concat]
    exact hi.symm

/-- First-occurrence deduplication: each value once, where it first appears. -/
def firstOccurrences {α : Type} [DecidableEq α] (xs : List α) : List α :=
  xs.foldl (fun acc x => if x ∈ acc then acc else acc ++ [x]) []

section FirstOccurrences

variable {α : Type} [DecidableEq α]

theorem firstOccurrences_concat (xs : List α) (x : α) :
    firstOccurrences (xs ++ [x]) =
      if x ∈ firstOccurrences xs then firstOccurrences xs else firstOccurrences xs ++ [x] := by
  simp only [firstOccurrences, List.foldl_append, List.foldl_cons, List.foldl_nil]

theorem mem_firstOccurrences (xs : List α) (a : α) : a ∈ firstOccurrences xs ↔ a ∈ xs := by
  induction xs using List.reverseRecOn generalizing a with
  | nil => simp [firstOccurrences]
  | append_singleton xs x ih =>
    rw [firstOccurrences_concat]
    split
    · rename_i hx
      rw [ih, List.mem_append, List.mem_singleton]
      exact ⟨.inl, fun h => h.elim id fun h => h ▸ (ih x).1 hx⟩
    · rw [List.mem_append, List.mem_append, ih]

/-- The kept values stand in the order of their first occurrences. -/
theorem firstOccurrences_sorted (xs : List α) :
    ((firstOccurrences xs).map xs.indexOf).Sorted (· < ·) := by
  induction xs using List.reverseRecOn with
  | nil => exact List.sorted_nil
  | append_singleton xs x ih =>
    have hidx : ∀ a ∈ firstOccurrences xs, (xs ++ [x]).indexOf a = xs.indexOf a :=
      fun a ha => List.indexOf_append_of_mem ((mem_firstOccurrences xs a).1 ha)
    rw [firstOccurrences_concat]
    split
    · rwa [List.map_congr_left hidx]
    · rename_i hx
      have hx' : x ∉ xs := fun h => hx ((mem_firstOccurrences xs x).2 h)
      rw [List.map_append, List.map_congr_left hidx, List.Sorted, List.pairwise_append]
      refine ⟨ih, List.pairwise_singleton _ _, fun a ha b hb => ?_⟩
      obtain ⟨c, hc, rfl⟩ := List.mem_map.1 ha
      rw [List.map_singleton, List.mem_singleton] at hb
      rw [hb, List.indexOf_append_of_not_mem hx']
      exact Nat.lt_add_right _ (List.indexOf_lt_length.2 ((mem_firstOccurrences xs c).1 hc))

end FirstOccurrences

/-- `_jtc_joint_names` is first-occurrence deduplication of the stripped
interfaces. -/
theorem jtcJointNames_eq (info : ControllerInfo) :
    jtcJointNames info = firstOccurrences (info.requiredStateInterfaces.map stripInterface) := by
  rw [jtcJointNames, firstOccurrences, List.foldl_map]

/-- The joint names are the stripped interfaces, once each, in the order of
their first occurrences; stripping drops the last `/` and what follows it. -/
theorem jtcJointNames_first_occurrences (info : ControllerInfo) :
    (jtcJointNames info).Nodup ∧
      (∀ name, name ∈ jtcJointNames info ↔
        ∃ i ∈ info.requiredStateInterfaces, stripInterface i = name) ∧
      ((jtcJointNames info).map
        (info.requiredStateInterfaces.map stripInterface).indexOf).Sorted (· < ·) ∧
      ∀ i : String, ('/' ∉ i.toList → stripInterface i = "") ∧
        ('/' ∈ i.toList → ∃ t, '/' ∉ t.toList ∧ i = stripInterface i ++ "/" ++ t) := by
  refine ⟨jtcJointNames_nodup info, fun name => ?_, ?_,
    fun i => ⟨stripInterface_of_not_mem, stripInterface_of_mem⟩⟩
  · rw [jtcJointNames_eq, mem_firstOccurrences, List.mem_map]
  · rw [jtcJointNames_eq]
    exact firstOccurrences_sorted _

end RqtJtc
