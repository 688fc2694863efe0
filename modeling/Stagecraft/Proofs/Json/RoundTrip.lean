/-
What is written as JSON is read back.

A record of numbers is read by its field names and by nothing else of an
object: neither the order of the members nor members of other names make a
difference. A text of a record, or of an attribute value, is therefore read as
what its numbers are read as. Whether a double is read as itself from its own
text is left open, since reading rounds more than once; what is not finite is
written as null and never read as a number.
-/
import Stagecraft.Proofs.Json.Numbers

namespace Stagecraft

namespace Json

-- ======================================================= doubles read again

/-- What is read from the text of a double, if it is a number. -/
def reread? (x : Float) : Option Float := (read? (writeNumber x)).bind number?

/-- A double that is read as itself from its own text. -/
def ReadsBack (x : Float) : Prop := reread? x = some x

instance (x : Float) : Decidable (ReadsBack x) := inferInstanceAs (Decidable (_ = _))

/-- The value that the text of a double stands for. -/
def written (x : Float) : Json := (read? (writeNumber x)).getD null

/-- Every double is written as one value, a number or null. -/
theorem written_spec (x : Float) :
    read? (writeNumber x) = some (written x) ∧
      ((∃ n, written x = number n) ∨ written x = null) := by
  unfold written
  cases hx : Scalar.isFinite x with
  | true =>
    obtain ⟨n, hn⟩ := read?_writeNumber hx
    rw [hn]
    exact ⟨rfl, .inl ⟨n, rfl⟩⟩
  | false =>
    rw [read?_writeNumber_of_not hx]
    exact ⟨rfl, .inr rfl⟩

theorem number?_written (x : Float) : number? (written x) = reread? x := by
  rw [reread?, (written_spec x).1, Option.bind_some]

theorem reread?_of_not {x : Float} (h : Scalar.isFinite x = false) : reread? x = none := by
  rw [reread?, read?_writeNumber_of_not h]
  rfl

/-- The texts of doubles stand for values that are read as the doubles read again. -/
theorem forall₂_written (xs : List Float) :
    List.Forall₂ (fun text j => read? text = some j) (xs.map writeNumber) (xs.map written) := by
  simp [List.forall₂_map_left_iff, List.forall₂_map_right_iff, List.forall₂_same,
    written_spec]

theorem mapM_number?_written (xs : List Float) :
    (xs.map written).mapM number? = xs.mapM reread? := by
  rw [List.mapM_map]
  exact congrArg (fun f => xs.mapM f) (funext number?_written)

theorem mapM_eq_some_of_forall₂ {α β : Type} {f : α → Option β} {as : List α} {bs : List β}
    (h : List.Forall₂ (fun a b => f a = some b) as bs) : as.mapM f = some bs := by
  induction h with
  | nil => rfl
  | cons hab _ ih =>
    rw [List.mapM_cons, hab, ih]
    rfl

theorem mapM_reread?_eq_some {xs : List Float} (h : ∀ x ∈ xs, ReadsBack x) :
    xs.mapM reread? = some xs := mapM_eq_some_of_forall₂ (List.forall₂_same.2 h)

theorem mapM_reread?_eq_none {xs : List Float} (h : ∃ x ∈ xs, Scalar.isFinite x = false) :
    xs.mapM reread? = none := by
  induction xs with
  | nil => simp at h
  | cons x xs ih =>
    rw [List.mapM_cons]
    cases hx : Scalar.isFinite x with
    | false =>
      rw [reread?_of_not hx]
      rfl
    | true =>
      rw [ih (by simpa [hx] using h)]
      cases reread? x <;> rfl

-- ================================================================ members

theorem mapM_eq_of_forall₂ {α β γ : Type} {f : α → Option γ} {g : β → Option γ} {as : List α}
    {bs : List β} (h : List.Forall₂ (fun a b => f a = g b) as bs) : as.mapM f = bs.mapM g := by
  induction h with
  | nil => rfl
  | cons hab _ ih => rw [List.mapM_cons, List.mapM_cons, hab, ih]

theorem filter_key {members : List (Option String × Json)} {member : Option String × Json}
    (hmem : member ∈ members) (hnodup : (members.map Prod.fst).Nodup) :
    members.filter (fun p => p.1 == member.1) = [member] := by
  obtain ⟨before, after, rfl⟩ := List.append_of_mem hmem
  rw [List.map_append, List.map_cons, List.nodup_middle, List.nodup_cons,
    ← List.map_append] at hnodup
  have hother : ∀ p ∈ before ++ after, ¬ (p.1 == member.1) = true := by
    intro p hp heq
    exact hnodup.1 (beq_iff_eq.1 heq ▸ List.mem_map_of_mem hp)
  rw [List.forall_mem_append] at hother
  have hself : (member :: after).filter (fun p => p.1 == member.1)
      = member :: after.filter (fun p => p.1 == member.1) :=
    List.filter_cons_of_pos (beq_self_eq_true member.1)
  rw [List.filter_append, hself, List.filter_eq_nil_iff.2 hother.1,
    List.filter_eq_nil_iff.2 hother.2]
  rfl

/-- An object with the members of a record, `known`, in any order and among others: the
keys of the record's members are the names of its fields, and no other member has one. -/
structure HasFields (names : List String) (known others members : List (Option String × Json)) :
    Prop where
  perm : members.Perm (known ++ others)
  keys : known.map Prod.fst = names.map some
  others : ∀ p ∈ others, ∃ key ∉ names, p.1 = some key

namespace HasFields

variable {names : List String} {known others members : List (Option String × Json)}
  (h : HasFields names known others members)

include h

theorem isSome_key {p : Option String × Json} (hp : p ∈ members) : p.1.isSome = true := by
  rcases List.mem_append.1 (h.perm.mem_iff.1 hp) with hp | hp
  · have hname : p.1 ∈ known.map Prod.fst := List.mem_map_of_mem hp
    rw [h.keys] at hname
    obtain ⟨name, -, hname⟩ := List.mem_map.1 hname
    rw [← hname]
    rfl
  · obtain ⟨key, -, hkey⟩ := h.others p hp
    rw [hkey]
    rfl

/-- The one member with the name of a field is found, in any order and among any others. -/
theorem only?_eq (hnames : names.Nodup) {name : String} (hname : name ∈ names)
    {member : Option String × Json} (hmem : member ∈ known) (hkey : some name = member.1) :
    only? members name = some member.2 := by
  have hnodup : (known.map Prod.fst).Nodup := h.keys ▸ hnames.map (Option.some_injective _)
  have hnone : others.filter (fun p => p.1 == some name) = [] := by
    refine List.filter_eq_nil_iff.2 fun p hp heq => ?_
    obtain ⟨key, hother, hp⟩ := h.others p hp
    exact hother (Option.some.inj (hp.symm.trans (beq_iff_eq.1 heq)) ▸ hname)
  have hfilter := h.perm.filter fun p => p.1 == some name
  rw [List.filter_append, hnone, List.append_nil, hkey, filter_key hmem hnodup,
    List.perm_singleton] at hfilter
  unfold only?
  rw [hkey, hfilter]

theorem forall₂_names : List.Forall₂ (fun name member => some name = member.1) names known := by
  have hsame : List.Forall₂ Eq (names.map some) (names.map some) := List.forall₂_refl _
  nth_rewrite 2 [← h.keys] at hsame
  rwa [List.forall₂_map_left_iff, List.forall₂_map_right_iff] at hsame

/-- Of an object a record of numbers sees only the members with the names of its fields. -/
theorem record?_eq (hnames : names.Nodup) :
    record? names (object members) = (known.map Prod.snd).mapM number? := by
  have hsome : ¬(members.any fun p => p.1.isNone) = true := by
    rw [Bool.not_eq_true, List.any_eq_false]
    intro p hp
    rw [← Option.not_isSome, h.isSome_key hp]
    exact Bool.false_ne_true
  have hfound : List.Forall₂ (fun name member =>
      (only? members name).bind number? = number? member.2) names known := by
    refine List.forall₂_iff_zip.2 ⟨h.forall₂_names.length_eq, fun hzip => ?_⟩
    obtain ⟨hname, hmem⟩ := List.of_mem_zip hzip
    rw [h.only?_eq hnames hname hmem (List.forall₂_zip h.forall₂_names hzip)]
    rfl
  show (if _ then none else _) = _
  rw [if_neg hsome, List.mapM_map]
  exact mapM_eq_of_forall₂ hfound

end HasFields

-- ================================================================ records

/-- A record of numbers with these field names is written and read as one. -/
structure IsRecord {α : Type} (names : List String) (values : α → List Float)
    (toJson : α → String) (ofJson? : Json → Option α) : Prop where
  nodup : names.Nodup
  plain : ∀ name ∈ names, IsPlain name
  length : ∀ v, (values v).length = names.length
  written : ∀ v, toJson v = writeRecord names (values v)
  accepted : ∀ j v, record? names j = some (values v) → ofJson? j = some v
  refused : ∀ j, record? names j = none → ofJson? j = none

/-- The members of a record that is written. -/
def writtenMembers (names : List String) (xs : List Float) : List (Option String × Json) :=
  (names.zip xs).map fun p => (some p.1, written p.2)

theorem keys_writtenMembers {names : List String} {xs : List Float}
    (h : xs.length = names.length) : (writtenMembers names xs).map Prod.fst = names.map some := by
  have hkeys := congrArg (List.map some) (List.map_fst_zip h.ge)
  rw [List.map_map] at hkeys
  rw [writtenMembers, List.map_map]
  exact hkeys

theorem values_writtenMembers {names : List String} {xs : List Float}
    (h : xs.length = names.length) : (writtenMembers names xs).map Prod.snd = xs.map written := by
  have hvalues := congrArg (List.map written) (List.map_snd_zip h.le)
  rw [List.map_map] at hvalues
  rw [writtenMembers, List.map_map]
  exact hvalues

theorem read?_writeRecord {names : List String} (hplain : ∀ name ∈ names, IsPlain name)
    (xs : List Float) :
    read? (writeRecord names xs) = some (object (writtenMembers names xs)) := by
  unfold writeRecord
  rw [writeObject_eq, List.zip_map_right, List.map_map]
  refine read?_objectText ?_
  rw [writtenMembers, List.forall₂_map_left_iff, List.forall₂_map_right_iff, List.forall₂_same]
  intro p hp
  exact ⟨read?_writeName (hplain p.1 (List.of_mem_zip hp).1), (written_spec p.2).1⟩

/-- A record that is written is read as its numbers read again. -/
theorem record?_writtenMembers {names : List String} (hnames : names.Nodup) {xs : List Float}
    (h : xs.length = names.length) :
    record? names (object (writtenMembers names xs)) = xs.mapM reread? := by
  have hfields : HasFields names (writtenMembers names xs) [] (writtenMembers names xs) :=
    ⟨by rw [List.append_nil], keys_writtenMembers h, fun _ hp => nomatch hp⟩
  rw [hfields.record?_eq hnames, values_writtenMembers h, mapM_number?_written]

/-- A member that is a field with this name and this number. -/
def IsField (member : Option String × Json) (field : String × Float) : Prop :=
  member.1 = some field.1 ∧ number? member.2 = some field.2

theorem keys_of_fields {known : List (Option String × Json)} {fields : List (String × Float)}
    (h : List.Forall₂ IsField known fields) :
    known.map Prod.fst = (fields.map Prod.fst).map some := by
  induction h with
  | nil => rfl
  | cons hfield _ ih => rw [List.map_cons, List.map_cons, List.map_cons, hfield.1, ih]

theorem values_of_fields {known : List (Option String × Json)} {fields : List (String × Float)}
    (h : List.Forall₂ IsField known fields) :
    (known.map Prod.snd).mapM number? = some (fields.map Prod.snd) := by
  induction h with
  | nil => rfl
  | cons hfield _ ih =>
    rw [List.map_cons, List.mapM_cons, hfield.2, ih]
    rfl

-- ============================================================ round trips

/-- How the text of a value made of these numbers is read: as the same value when every
number is finite and is read as itself, and as no value at all when one is not finite. -/
structure ReadsBackText {α : Type} (values : α → List Float) (toJson : α → String)
    (ofJson? : Json → Option α) : Prop where
  same : ∀ v, (∀ x ∈ values v, Scalar.isFinite x = true ∧ ReadsBack x) →
    (read? (toJson v)).bind ofJson? = some v
  refused : ∀ v, (∃ x ∈ values v, Scalar.isFinite x = false) →
    (read? (toJson v)).bind ofJson? = none

/-- A record is also read from every object that has its fields, in any order and among
members of other names, and from the array of its fields. -/
structure ReadsBackRecord {α : Type} (names : List String) (values : α → List Float)
    (toJson : α → String) (ofJson? : Json → Option α) : Prop
    extends ReadsBackText values toJson ofJson? where
  members : ∀ v texts members known others, List.Forall₂ Spells texts members →
    members.Perm (known ++ others) →
    List.Forall₂ IsField known (names.zip (values v)) →
    (∀ member ∈ others, ∃ key ∉ names, member.1 = some key) →
    (read? (objectText texts)).bind ofJson? = some v
  items : ∀ v texts items, List.Forall₂ (fun text j => read? text = some j) texts items →
    List.Forall₂ (fun j x => number? j = some x) items (values v) →
    (read? (writeArray texts)).bind ofJson? = some v

theorem IsRecord.readsBack {α : Type} {names : List String} {values : α → List Float}
    {toJson : α → String} {ofJson? : Json → Option α}
    (h : IsRecord names values toJson ofJson?) :
    ReadsBackRecord names values toJson ofJson? where
  same v hv := by
    rw [h.written, read?_writeRecord h.plain, Option.bind_some]
    refine h.accepted _ v ?_
    rw [record?_writtenMembers h.nodup (h.length v)]
    exact mapM_reread?_eq_some fun x hx => (hv x hx).2
  refused v hv := by
    rw [h.written, read?_writeRecord h.plain, Option.bind_some]
    refine h.refused _ ?_
    rw [record?_writtenMembers h.nodup (h.length v)]
    exact mapM_reread?_eq_none hv
  members v texts members known others hspells hperm hknown hothers := by
    have hlength := h.length v
    have hkeys := keys_of_fields hknown
    have hvalues := values_of_fields hknown
    rw [List.map_fst_zip hlength.ge] at hkeys
    rw [List.map_snd_zip hlength.le] at hvalues
    have hfields : HasFields names known others members := ⟨hperm, hkeys, hothers⟩
    rw [read?_objectText hspells, Option.bind_some]
    refine h.accepted _ v ?_
    rw [hfields.record?_eq h.nodup, hvalues]
  items v texts items hread hnumbers := by
    have hlength : items.length = names.length := hnumbers.length_eq.trans (h.length v)
    rw [read?_writeArray hread, Option.bind_some]
    refine h.accepted _ v ?_
    show (if items.length = names.length then items.mapM number? else none) = _
    rw [if_pos hlength]
    exact mapM_eq_some_of_forall₂ hnumbers

end Json

open Json

theorem Vec2.isRecord : IsRecord fields (fun v => [v.x, v.y]) toJson ofJson? where
  nodup := by decide
  plain := by decide
  length _ := rfl
  written _ := rfl
  accepted j v h := by rw [ofJson?, h]
  refused j h := by rw [ofJson?, h]

theorem Vec3.isRecord : IsRecord fields (fun v => [v.x, v.y, v.z]) toJson ofJson? where
  nodup := by decide
  plain := by decide
  length _ := rfl
  written _ := rfl
  accepted j v h := by rw [ofJson?, h]
  refused j h := by rw [ofJson?, h]

theorem Rect.isRecord :
    IsRecord fields (fun r => [r.x, r.y, r.width, r.height]) toJson ofJson? where
  nodup := by decide
  plain := by decide
  length _ := rfl
  written _ := rfl
  accepted j v h := by rw [ofJson?, h]
  refused j h := by rw [ofJson?, h]

/-- The numbers of an attribute value. -/
def AttrValue.numbers : AttrValue Float → List Float
  | .scalar v => [v]
  | .array vs => vs

/-- An attribute value is read as its numbers read again, in the same shape. -/
theorem AttrValue.ofJson?_toJson (a : AttrValue Float) :
    (read? a.toJson).bind ofJson? = match a with
      | .scalar v => (reread? v).map .scalar
      | .array vs => (vs.mapM reread?).map .array := by
  cases a with
  | scalar v =>
    obtain ⟨hread, hshape⟩ := written_spec v
    show (read? (writeNumber v)).bind ofJson? = (reread? v).map .scalar
    rw [hread, ← number?_written, Option.bind_some]
    rcases hshape with ⟨n, hn⟩ | hnull
    · rw [hn, ofJson?]
    · rw [hnull]
      rfl
  | array vs =>
    show (read? (writeArray (vs.map writeNumber))).bind ofJson? = (vs.mapM reread?).map .array
    rw [read?_writeArray (forall₂_written vs), ← mapM_number?_written]
    rfl

theorem AttrValue.readsBack : ReadsBackText numbers toJson ofJson? where
  same a ha := by
    rw [ofJson?_toJson]
    cases a with
    | scalar v =>
      have hv : reread? v = some v := (ha v List.mem_cons_self).2
      simp only [hv, Option.map_some]
    | array vs =>
      have hvs : vs.mapM reread? = some vs := mapM_reread?_eq_some fun x hx => (ha x hx).2
      simp only [hvs, Option.map_some]
  refused a ha := by
    rw [ofJson?_toJson]
    cases a with
    | scalar v =>
      obtain ⟨x, hx, hinf⟩ := ha
      obtain rfl := List.mem_singleton.1 hx
      simp only [reread?_of_not hinf, Option.map_none]
    | array vs =>
      have hvs : vs.mapM reread? = none := mapM_reread?_eq_none ha
      simp only [hvs, Option.map_none]

theorem AnchorPoint.readsBack (p : AnchorPoint) : (read? p.toJson).bind ofJson? = some p := by
  have hplain : IsPlain p.caseName := by cases p <;> decide
  rw [toJson, read?_writeName hplain, Option.bind_some]
  cases p <;> rfl

theorem Easing.readsBack (e : Easing) : (read? e.toJson).bind ofJson? = some e := by
  have hplain : IsPlain e.name := by cases e <;> decide
  rw [toJson, read?_writeName hplain, Option.bind_some]
  cases e <;> rfl

/-- Vectors, rectangles, attribute values, anchor points and easings are read back from
their texts. -/
structure FormsReadBack : Prop where
  vec2 : ReadsBackRecord Vec2.fields (fun v => [v.x, v.y]) Vec2.toJson Vec2.ofJson?
  vec3 : ReadsBackRecord Vec3.fields (fun v => [v.x, v.y, v.z]) Vec3.toJson Vec3.ofJson?
  rect : ReadsBackRecord Rect.fields (fun r => [r.x, r.y, r.width, r.height]) Rect.toJson
    Rect.ofJson?
  attrValue : ReadsBackText AttrValue.numbers AttrValue.toJson AttrValue.ofJson?
  anchor : ∀ p : AnchorPoint, (read? p.toJson).bind AnchorPoint.ofJson? = some p
  easing : ∀ e : Easing, (read? e.toJson).bind Easing.ofJson? = some e

/-- Whatever is written of vectors, rectangles, attribute values, names of anchor points and
names of easings is read back as what it was. -/
theorem written_forms_read_back : FormsReadBack where
  vec2 := Vec2.isRecord.readsBack
  vec3 := Vec3.isRecord.readsBack
  rect := Rect.isRecord.readsBack
  attrValue := AttrValue.readsBack
  anchor := AnchorPoint.readsBack
  easing := Easing.readsBack

/-- A rectangle from its own text, and a vector from an object with its fields the other
way round, with blanks and with one member more. -/
theorem a_rect_and_a_turned_vector_are_read :
    (read? (Rect.toJson ⟨0.1, -2.5, 1e300, 0.0⟩)).bind Rect.ofJson?
        = some ⟨0.1, -2.5, 1e300, 0.0⟩ ∧
      (read? "\x7b\"y\": 2.5,\"w\":[null], \"x\" :1\x7d").bind Vec2.ofJson? = some ⟨1.0, 2.5⟩ := by
  refine ⟨written_forms_read_back.rect.same ⟨0.1, -2.5, 1e300, 0.0⟩ (by decide +kernel), ?_⟩
  exact written_forms_read_back.vec2.members ⟨1.0, 2.5⟩
    [("\"y\"", " 2.5"), ("\"w\"", "[null]"), (" \"x\" ", "1")]
    [(some "y", number ⟨false, ['2'], ['5'], 0⟩), (some "w", array [null]),
      (some "x", number ⟨false, ['1'], [], 0⟩)]
    [(some "x", number ⟨false, ['1'], [], 0⟩), (some "y", number ⟨false, ['2'], ['5'], 0⟩)]
    [(some "w", array [null])]
    (.cons ⟨rfl, rfl⟩ (.cons ⟨rfl, rfl⟩ (.cons ⟨rfl, rfl⟩ .nil)))
    (@List.perm_append_comm _ [_, _] [_])
    (.cons ⟨rfl, by decide +kernel⟩ (.cons ⟨rfl, by decide +kernel⟩ .nil))
    (by simp [Vec2.fields])

end Stagecraft
