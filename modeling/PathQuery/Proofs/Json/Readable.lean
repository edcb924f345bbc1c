import Mathlib
import PathQuery.Json.Reader
import PathQuery.Proofs.Json.Equality
import PathQuery.Proofs.Json.Glyphs
import PathQuery.Proofs.Json.Numerals

/-!
The values that texts mean: those without two members of one name in an object, with numbers as
documents hold them, and with no more levels of containers than the reader admits. Each of them is
what its own source form means.
-/

namespace PathQuery.Json

/-- A property of all values, shown of a container from its parts. -/
@[elab_as_elim]
theorem induct {P : Json → Prop} (null : P .null) (bool : ∀ b, P (.bool b))
    (number : ∀ n, P (.number n)) (string : ∀ s, P (.string s))
    (array : ∀ items, (∀ x ∈ items, P x) → P (.array items))
    (object : ∀ members, (∀ m ∈ members, P m.2) → P (.object members)) (x : Json) : P x :=
  @Json.rec P (fun items => ∀ x ∈ items, P x) (fun members => ∀ m ∈ members, P m.2)
    (fun m => P m.2) null bool number string array object (by simp)
    (fun _ _ first rest => List.forall_mem_cons.2 ⟨first, rest⟩) (by simp)
    (fun _ _ first rest => List.forall_mem_cons.2 ⟨first, rest⟩) (fun _ _ value => value) x

/-- A value as documents hold it, with at most `depth` levels of containers. -/
inductive Readable : (depth : Nat) → Json → Prop
  | null {depth : Nat} : Readable depth .null
  | bool {depth : Nat} (b : Bool) : Readable depth (.bool b)
  | number {depth : Nat} {n : Number} : n.Admitted → Readable depth (.number n)
  | string {depth : Nat} (s : String) : Readable depth (.string s)
  | array {depth : Nat} {items : List Json} : (∀ x ∈ items, Readable depth x) →
      Readable (depth + 1) (.array items)
  | object {depth : Nat} {members : List (String × Json)} : (members.map Prod.fst).Nodup →
      (∀ m ∈ members, Readable depth m.2) → Readable (depth + 1) (.object members)

/-! ### What is read is readable -/

theorem names_insertMember (name : String) (v : Json) (ms : List (String × Json)) :
    (insertMember name v ms).map Prod.fst =
      if name ∈ ms.map Prod.fst then ms.map Prod.fst else ms.map Prod.fst ++ [name] := by
  induction ms with
  | nil => rfl
  | cons m rest ih =>
      obtain ⟨n, w⟩ := m
      rw [insertMember]
      split
      · rename_i same
        simp [same]
      · rename_i different
        rw [List.map_cons, ih]
        simp only [List.map_cons, List.mem_cons, Ne.symm different, false_or]
        split <;> rfl

theorem mem_insertMember {name : String} {v : Json} {ms : List (String × Json)}
    {m : String × Json} (h : m ∈ insertMember name v ms) : m.2 = v ∨ m ∈ ms := by
  induction ms with
  | nil =>
      rw [insertMember, List.mem_singleton] at h
      exact .inl (congrArg Prod.snd h)
  | cons n rest ih =>
      rw [insertMember] at h
      split at h
      · rcases List.mem_cons.1 h with rfl | h
        · exact .inl rfl
        · exact .inr (List.mem_cons_of_mem _ h)
      · rcases List.mem_cons.1 h with rfl | h
        · exact .inr List.mem_cons_self
        · exact (ih h).imp_right (List.mem_cons_of_mem _)

theorem Readable.insertMember {depth : Nat} {ms : List (String × Json)}
    (h : Readable (depth + 1) (.object ms)) (name : String) {v : Json} (hv : Readable depth v) :
    Readable (depth + 1) (.object (insertMember name v ms)) := by
  cases h with
  | object distinct values =>
      refine .object ?_ fun m hm => ?_
      · rw [names_insertMember]
        split
        · exact distinct
        · rename_i fresh
          refine List.nodup_append.2 ⟨distinct, List.nodup_singleton name, fun n hn n' hn' => ?_⟩
          rw [List.mem_singleton.1 hn']
          rintro rfl
          exact fresh hn
      · rcases mem_insertMember hm with h | h
        · exact h ▸ hv
        · exact values m h

theorem Readable.ofMembers {depth : Nat} {ms : List (String × Json)}
    (h : ∀ m ∈ ms, Readable depth m.2) : Readable (depth + 1) (ofMembers ms) := by
  have merged (acc : List (String × Json)) (ha : Readable (depth + 1) (.object acc)) :
      Readable (depth + 1)
        (.object (ms.foldl (fun acc m => Json.insertMember m.1 m.2 acc) acc)) := by
    induction ms generalizing acc with
    | nil => exact ha
    | cons m rest ih =>
        rw [List.foldl_cons]
        exact ih (fun m' hm => h m' (by simp [hm])) _ (ha.insertMember _ (h m (by simp)))
  exact merged [] (.object (by simp) (by simp))

theorem Numeral.admitted_of_toNumber? {n : Numeral} {k : Number} (h : n.toNumber? = some k) :
    k.Admitted := by
  unfold toNumber? at h
  extract_lets value at h
  split at h
  · rename_i integer
    cases h
    rw [Bool.and_eq_true] at integer
    exact integer.2
  · obtain ⟨x, -, rfl⟩ := Option.map_eq_some_iff.1 h
    trivial

mutual

theorem readable_of_ofSource? {depth : Nat} (s : Source) {x : Json}
    (h : ofSource? depth s = some x) : Readable depth x := by
  match s with
  | .null =>
      cases h
      exact .null
  | .bool b =>
      cases h
      exact .bool b
  | .number n =>
      obtain ⟨k, hk, rfl⟩ := Option.map_eq_some_iff.1 h
      exact .number (Numeral.admitted_of_toNumber? hk)
  | .string text =>
      obtain ⟨t, -, rfl⟩ := Option.map_eq_some_iff.1 h
      exact .string t
  | .array items =>
      rw [ofSource?] at h
      split at h
      · cases h
      · rename_i some
        obtain ⟨xs, hxs, rfl⟩ := Option.map_eq_some_iff.1 h
        obtain ⟨d, rfl⟩ := Nat.exists_eq_add_one_of_ne_zero some
        exact .array (readable_of_itemsOfSource? items hxs)
  | .object members =>
      rw [ofSource?] at h
      split at h
      · cases h
      · rename_i some
        obtain ⟨ms, hms, rfl⟩ := Option.map_eq_some_iff.1 h
        obtain ⟨d, rfl⟩ := Nat.exists_eq_add_one_of_ne_zero some
        exact .ofMembers (readable_of_membersOfSource? members hms)

theorem readable_of_itemsOfSource? {depth : Nat} (items : List Source) {xs : List Json}
    (h : itemsOfSource? depth items = some xs) : ∀ x ∈ xs, Readable depth x := by
  match items with
  | [] =>
      cases h
      simp
  | item :: rest =>
      rw [itemsOfSource?] at h
      simp only [Option.bind_eq_bind, Option.bind_eq_some_iff, Option.pure_def,
        Option.some.injEq] at h
      obtain ⟨value, hv, values, hvs, rfl⟩ := h
      exact List.forall_mem_cons.2
        ⟨readable_of_ofSource? item hv, readable_of_itemsOfSource? rest hvs⟩

theorem readable_of_membersOfSource? {depth : Nat} (members : List (List Glyph × Source))
    {ms : List (String × Json)} (h : membersOfSource? depth members = some ms) :
    ∀ m ∈ ms, Readable depth m.2 := by
  match members with
  | [] =>
      cases h
      simp
  | (name, item) :: rest =>
      rw [membersOfSource?] at h
      simp only [Option.bind_eq_bind, Option.bind_eq_some_iff, Option.pure_def,
        Option.some.injEq] at h
      obtain ⟨_, -, value, hv, values, hvs, rfl⟩ := h
      exact List.forall_mem_cons.2
        ⟨readable_of_ofSource? item hv, readable_of_membersOfSource? rest hvs⟩

end

end Json

/-! ### Source forms -/

/-- The digits of a numeral, without those that say nothing. -/
def Numeral.source (n : Numeral) : Json.Numeral :=
  ⟨n.negative, Number.natOfDigits (n.whole ++ n.fraction), n.fraction.length, n.exponentValue,
    n.fraction.isEmpty && n.exponent.isNone⟩

/-- The numeral that a number is printed as. -/
def Number.numeral : Number → Numeral
  | int n => intNumeral n
  | float x => floatNumeral x

namespace Json

mutual

/-- The source form of the text that the value is printed as. -/
def source : Json → Source
  | null => .null
  | bool b => .bool b
  | number n => .number n.numeral.source
  | string s => .string (glyphs s)
  | array items => .array (itemSources items)
  | object members => .object (memberSources members)

def itemSources : List Json → List Source
  | [] => []
  | x :: rest => source x :: itemSources rest

def memberSources : List (String × Json) → List (List Glyph × Source)
  | [] => []
  | (name, x) :: rest => (glyphs name, source x) :: memberSources rest

end

/-! ### A readable value is what its source form means -/

theorem stringOfGlyphs?_glyphs (s : String) : stringOfGlyphs? (glyphs s) = some s := by
  have whole : ∀ g ∈ glyphs s, g.isHalf = false := by
    simpa [glyphs] using fun c _ => isHalf_glyph c
  rw [stringOfGlyphs?, charsOfGlyphs?_whole whole, glyphs, map_char_glyph, Option.map_some,
    String.ofList_toList]

theorem source_intNumeral (i : Int) :
    (Number.intNumeral i).source = ⟨i < 0, i.natAbs, 0, 0, true⟩ := by
  simp [PathQuery.Numeral.source, Number.intNumeral, Number.natOfDigits_toDigits,
    PathQuery.Numeral.exponentValue]

theorem toNumber?_numeral {n : Number} (h : n.Admitted) :
    n.numeral.source.toNumber? = some n := by
  cases n with
  | int i =>
      have value : (if decide (i < 0) = true then -(i.natAbs : Int) else i.natAbs) = i := by
        simp only [decide_eq_true_eq]
        omega
      have negative : (decide (i < 0) && i.natAbs == 0) = false := by
        simp only [Bool.and_eq_false_iff, decide_eq_false_iff_not, beq_eq_false_iff_ne]
        omega
      have range : Number.isExact i := h
      rw [Number.numeral, source_intNumeral]
      simp only [Numeral.toNumber?, value, negative, range]
      rfl
  | float x =>
      have fraction : ((Number.floatNumeral x).fraction.isEmpty &&
          (Number.floatNumeral x).exponent.isNone) = false := by
        rcases Number.isFloat_floatNumeral x with h | h
        · simp [h]
        · simp [h]
      have read : Binary64.ofDecimal (Number.floatNumeral x).negative
          (Number.floatNumeral x).value = some x := by
        rw [Number.negative_floatNumeral, Number.value_floatNumeral, Binary64.ofDecimal_shortest]
      rw [PathQuery.Numeral.value] at read
      simp [Numeral.toNumber?, Number.numeral, PathQuery.Numeral.source, fraction, read]

theorem insertMember_fresh {name : String} {ms : List (String × Json)}
    (h : name ∉ ms.map Prod.fst) (v : Json) : insertMember name v ms = ms ++ [(name, v)] := by
  induction ms with
  | nil => rfl
  | cons m rest ih =>
      obtain ⟨n, w⟩ := m
      rw [List.map_cons, List.mem_cons, not_or] at h
      rw [insertMember, if_neg (Ne.symm h.1), ih h.2, List.cons_append]

/-- Members of distinct names stay as they are. -/
theorem ofMembers_of_nodup {ms : List (String × Json)} (h : (ms.map Prod.fst).Nodup) :
    ofMembers ms = .object ms := by
  have appended (acc : List (String × Json)) (ha : ((acc ++ ms).map Prod.fst).Nodup) :
      ms.foldl (fun acc m => Json.insertMember m.1 m.2 acc) acc = acc ++ ms := by
    induction ms generalizing acc with
    | nil => simp
    | cons m rest ih =>
        rw [List.append_cons] at ha
        have fresh : m.1 ∉ acc.map Prod.fst := by
          intro hm
          rw [List.map_append, List.map_append, List.map_singleton] at ha
          have inner := (List.nodup_append.1 ha).1
          exact (List.nodup_append.1 inner).2.2 m.1 hm m.1 (by simp) rfl
        rw [List.foldl_cons, insertMember_fresh fresh]
        rw [List.map_cons, List.nodup_cons] at h
        rw [ih h.2 _ ha, List.append_assoc, List.singleton_append]
  rw [ofMembers, appended [] (by simpa using h), List.nil_append]

theorem itemsOfSource?_itemSources {depth : Nat} {xs : List Json}
    (h : ∀ x ∈ xs, ofSource? depth (source x) = some x) :
    itemsOfSource? depth (itemSources xs) = some xs := by
  induction xs with
  | nil => rfl
  | cons x rest ih =>
      rw [itemSources, itemsOfSource?, h x (by simp), ih fun y hy => h y (by simp [hy])]
      rfl

theorem membersOfSource?_memberSources {depth : Nat} {ms : List (String × Json)}
    (h : ∀ m ∈ ms, ofSource? depth (source m.2) = some m.2) :
    membersOfSource? depth (memberSources ms) = some ms := by
  induction ms with
  | nil => rfl
  | cons m rest ih =>
      obtain ⟨name, x⟩ := m
      rw [memberSources, membersOfSource?, stringOfGlyphs?_glyphs, h (name, x) (by simp),
        ih fun n hn => h n (by simp [hn])]
      rfl

theorem ofSource?_source {depth : Nat} {x : Json} (h : Readable depth x) :
    ofSource? depth (source x) = some x := by
  induction h with
  | null | bool _ => rfl
  | number hn => rw [source, ofSource?, toNumber?_numeral hn, Option.map_some]
  | string s => rw [source, ofSource?, stringOfGlyphs?_glyphs, Option.map_some]
  | array _ ih =>
      rw [source, ofSource?, if_neg (by simp), Nat.add_sub_cancel, itemsOfSource?_itemSources ih,
        Option.map_some]
  | object distinct _ ih =>
      rw [source, ofSource?, if_neg (by simp), Nat.add_sub_cancel,
        membersOfSource?_memberSources ih, Option.map_some, ofMembers_of_nodup distinct]

end PathQuery.Json
