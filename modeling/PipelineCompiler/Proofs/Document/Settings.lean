import Mathlib.Data.List.Nodup
import Mathlib.Data.List.Perm.Basic
import PipelineCompiler.Proofs.Document.Provenance

namespace PipelineCompiler

open Json (Value Outline Text Numeral)

namespace Configuration

/-- The keys that are read for a role and a block type. -/
def readKeys (role : Role) (blockType : String) : List String :=
  match role with
  | .trigger => triggerKeys
  | .job =>
      ((JobKind.ofBlockType blockType none).settingKey?.map SettingKey.name).toList ++
        ["checkout", "runsOn", "command"]

/-- Two configurations that hold the same under some keys. -/
def AgreeOn (keys : List String) (c c' : List (String × Value)) : Prop :=
  ∀ k ∈ keys, find? k c = find? k c'

theorem AgreeOn.mono {keys others : List String} {c c' : List (String × Value)}
    (h : AgreeOn others c c') (hk : ∀ k ∈ keys, k ∈ others) : AgreeOn keys c c' :=
  fun k hm => h k (hk k hm)

theorem find?_eq_some_iff {fields : List (String × Value)} (h : (fields.map (·.1)).Nodup)
    {key : String} {v : Value} : find? key fields = some v ↔ (key, v) ∈ fields := by
  induction fields with
  | nil => simp [find?]
  | cons m rest ih =>
    obtain ⟨k, w⟩ := m
    obtain ⟨fresh, distinct⟩ := List.nodup_cons.mp h
    rw [find?_cons, List.mem_cons]
    by_cases same : k = key
    · have absent : (key, v) ∉ rest := fun hm => fresh (List.mem_map.mpr ⟨_, hm, same.symm⟩)
      simp [same, absent, eq_comm]
    · simp [same, ih distinct, Ne.symm same]

section Agree

variable {c c' : List (String × Value)} (hc : (c.map (·.1)).Nodup) (hc' : (c'.map (·.1)).Nodup)
include hc hc'

theorem checkScalars_agree {keys : List String} (h : AgreeOn keys c c')
    (ok : checkScalars keys c = .ok ()) : checkScalars keys c' = .ok () := by
  rw [checkScalars_eq_ok_iff] at ok ⊢
  rintro ⟨k, v⟩ hm key
  have found : find? k c = some v := (h k key).trans ((find?_eq_some_iff hc').mpr hm)
  exact ok (k, v) ((find?_eq_some_iff hc).mp found) key

theorem readRecord_agree {α : Type} {record : String} {names texts : List String}
    {make : List (String × Value) → α} {a : α} (hm : make c = make c') (h : AgreeOn texts c c')
    (ok : readRecord record names texts make (.object c) = .ok a) :
    readRecord record names texts make (.object c') = .ok a := by
  simp only [readRecord, fieldsOf, Outcome.bind_eq_ok] at ok ⊢
  obtain ⟨_, ⟨⟩, _, checked, made⟩ := ok
  exact ⟨_, rfl, (), checkScalars_agree hc hc' h checked, hm ▸ made⟩

omit hc hc' in
theorem text?_agree {key : String} (h : find? key c = find? key c') :
    text? key c = text? key c' := by
  rw [text?, h, text?]

omit hc hc' in
theorem flag?_agree {key : String} (h : find? key c = find? key c') :
    flag? key c = flag? key c' := by
  rw [flag?, h, flag?]

theorem readTrigger_agree {s : TriggerSettings} (h : AgreeOn triggerKeys c c')
    (ok : readTrigger (.object c) = .ok s) : readTrigger (.object c') = .ok s := by
  refine readRecord_agree hc hc' ?_ h ok
  rw [text?_agree (h "trigger" (by simp [triggerKeys])),
    text?_agree (h "branch" (by simp [triggerKeys])),
    text?_agree (h "cron" (by simp [triggerKeys]))]

theorem readOptions_agree {o : JobOptions} (h : AgreeOn ["checkout", "runsOn", "command"] c c')
    (ok : readOptions (.object c) = .ok o) : readOptions (.object c') = .ok o := by
  refine readRecord_agree hc hc' ?_ (h.mono (by simp)) ok
  rw [flag?_agree (h "checkout" (by simp)), text?_agree (h "runsOn" (by simp)),
    text?_agree (h "command" (by simp))]

theorem readKind_agree {blockType : String} {kind : JobKind}
    (h : AgreeOn (readKeys .job blockType) c c') (ok : readKind blockType (.object c) = .ok kind) :
    readKind blockType (.object c') = .ok kind := by
  unfold readKind at ok ⊢
  split at ok
  · exact ok
  · next key hk =>
    have own : AgreeOn [key.name] c c' := h.mono (by simp [readKeys, hk])
    refine readRecord_agree hc hc' ?_ own ok
    rw [text?_agree (own key.name (by simp))]

end Agree

end Configuration

namespace Document

open PipelineCompiler.Configuration

/-- Entries that are not read make no difference to a node. -/
theorem NodeRecord.toNode_agree {r : NodeRecord} {c : List (String × Value)} {n : Node}
    (hr : (r.configuration.map (·.1)).Nodup) (hc : (c.map (·.1)).Nodup)
    (h : AgreeOn (readKeys r.role r.blockType) r.configuration c) (ok : r.toNode = .ok n) :
    NodeRecord.toNode { r with configuration := c } = .ok n := by
  have same {b : Block} (made : r.toBlock = .ok b) :
      NodeRecord.toBlock { r with configuration := c } = .ok b := by
    unfold NodeRecord.toBlock at made ⊢
    cases role : r.role with
    | trigger =>
      rw [role] at h made
      obtain ⟨settings, read, block⟩ := Outcome.bind_eq_ok.mp made
      exact Outcome.bind_eq_ok.mpr ⟨settings, readTrigger_agree hr hc h read, block⟩
    | job =>
      rw [role] at h made
      obtain ⟨kind, readKind, rest⟩ := Outcome.bind_eq_ok.mp made
      obtain ⟨options, readOptions, block⟩ := Outcome.bind_eq_ok.mp rest
      refine Outcome.bind_eq_ok.mpr ⟨kind, readKind_agree hr hc h readKind, ?_⟩
      exact Outcome.bind_eq_ok.mpr
        ⟨options, readOptions_agree hr hc (h.mono fun k hk =>
          List.mem_append_right _ hk) readOptions, block⟩
  unfold NodeRecord.toNode at ok
  split at ok
  · next b made =>
    cases ok
    rw [NodeRecord.toNode, same made]
  · cases ok

/-- A scalar as a setting may be: null, a boolean, a string or an integer of 64 bits. -/
def IsSetting : Outline → Prop
  | .null | .bool _ => True
  | .text s => s.isSome = true
  | .numeral n =>
      n.isInteger = true ∧
        Decimal.InWord 64
          (if n.negative then -(Numeral.natOf n.whole : Int) else Numeral.natOf n.whole)
  | _ => False

namespace JsonReader

theorem eq_zero_of_natOf {ds : List Nat} (h : Numeral.natOf ds = 0) : ∀ d ∈ ds, d = 0 := by
  have least (n : Nat) (ds : List Nat) (h : ds.foldl (fun n d => 10 * n + d) n = 0) :
      n = 0 ∧ ∀ d ∈ ds, d = 0 := by
    induction ds generalizing n with
    | nil => exact ⟨h, by simp⟩
    | cons d rest ih =>
      obtain ⟨sum, others⟩ := ih (10 * n + d) h
      exact ⟨by omega, List.forall_mem_cons.mpr ⟨by omega, others⟩⟩
  exact (least 0 ds h).2

theorem fill_zeros {ds : List Nat} (h : ∀ d ∈ ds, d = 0) : Numeral.fill 0 ds = (0, []) := by
  induction ds with
  | nil => rfl
  | cons d rest ih =>
    obtain rfl := h d (by simp)
    have further := ih fun e he => h e (by simp [he])
    exact (if_pos (Decimal.inWord_zero 64)).trans further

/-- Every integer of 64 bits is a number, the negative zero as well. -/
theorem exists_value {n : Numeral} (integer : n.isInteger = true)
    (word : Decimal.InWord 64
      (if n.negative then -(Numeral.natOf n.whole : Int) else Numeral.natOf n.whole)) :
    ∃ x, n.value? = some x := by
  unfold Numeral.value?
  dsimp only
  cases hn : n.negative with
  | false =>
    rw [hn, if_neg (by decide)] at word
    exact ⟨_, if_pos ⟨integer, rfl, word⟩⟩
  | true =>
    rw [hn, if_pos rfl] at word
    rw [if_neg (by simp)]
    by_cases zero : Numeral.natOf n.whole = 0
    · have fraction : n.fraction = [] ∧ n.power = none := by simpa [Numeral.isInteger] using integer
      have whole := fill_zeros (eq_zero_of_natOf zero)
      rw [if_neg (by simp [zero])]
      simp [Numeral.scaled, whole, fraction, Numeral.fill, Numeral.exponent, Numeral.scale,
        Decimal.Binary64.ofNat, Decimal.Binary64.ofRatio, Decimal.Binary64.isZero,
        Decimal.Binary64.zero]
    · exact ⟨_, if_pos ⟨integer, rfl, Nat.pos_of_ne_zero zero, word⟩⟩

theorem readValue_isSetting {o : Outline} (h : IsSetting o) (depth : Nat) :
    ∃ v, readValue depth o = .ok v := by
  cases o with
  | null => exact ⟨_, rfl⟩
  | bool b => exact ⟨_, rfl⟩
  | text s =>
    cases s with
    | none => cases h
    | some s => exact ⟨_, rfl⟩
  | numeral n =>
    obtain ⟨x, hx⟩ := exists_value h.1 h.2
    exact ⟨_, by rw [readValue, hx]⟩
  | _ => exact h.elim

/-- A member and what is kept of it. -/
def Keeps (depth : Nat) (m : Text × Outline) (field : String × Value) : Prop :=
  m.1 = some field.1 ∧ readValue depth m.2 = .ok field.2

theorem readMembers_eq_ok {depth : Nat} {members : List (Text × Outline)}
    {fields : List (String × Value)} :
    readMembers depth members = .ok fields ↔ List.Forall₂ (Keeps depth) members fields := by
  induction members generalizing fields with
  | nil => simp [readMembers, eq_comm]
  | cons m rest ih =>
    obtain ⟨key, o⟩ := m
    cases key with
    | none => simp [readMembers, Keeps, List.forall₂_cons_left_iff]
    | some key =>
      rw [readMembers]
      simp only [Outcome.bind_eq_ok, ih, List.forall₂_cons_left_iff, Keeps]
      constructor
      · rintro ⟨v, hv, others, ho, ⟨⟩⟩
        exact ⟨(key, v), others, ⟨rfl, hv⟩, ho, rfl⟩
      · rintro ⟨⟨_, v⟩, others, ⟨⟨⟩, hv⟩, ho, rfl⟩
        exact ⟨v, hv, others, ho, rfl⟩

theorem readMembers_perm {depth : Nat} {ms ms' : List (Text × Outline)}
    {fields : List (String × Value)} (h : readMembers depth ms = .ok fields) (hp : ms.Perm ms') :
    ∃ fields', readMembers depth ms' = .ok fields' ∧ fields.Perm fields' := by
  obtain ⟨fields', kept, same⟩ := List.perm_comp_forall₂ hp.symm (readMembers_eq_ok.mp h)
  exact ⟨fields', readMembers_eq_ok.mpr kept, same.symm⟩

/-- Distinct keys stay distinct when the values have been read. -/
theorem nodup_fields {depth : Nat} {ms : List (Text × Outline)} {fields : List (String × Value)}
    (h : readMembers depth ms = .ok fields) (hd : (ms.map (·.1)).Nodup) :
    (fields.map (·.1)).Nodup := by
  have kept := readMembers_eq_ok.mp h
  have names : ms.map (·.1) = fields.map fun m => some m.1 := by
    clear h hd
    induction kept with
    | nil => rfl
    | cons hm _ ih => rw [List.map_cons, List.map_cons, hm.1, ih]
  have listed : fields.map (fun m => some m.1) = (fields.map (·.1)).map some := by simp
  rw [names, listed] at hd
  exact List.Nodup.of_map some hd

end JsonReader

/-- One change of the members of a configuration that is read for certain keys. -/
inductive SettingsEdit (keys : List String) : List (Text × Outline) → List (Text × Outline) → Prop
  | add {before after : List (Text × Outline)} {k : String} {o : Outline}
      (fresh : some k ∉ (before ++ after).map (·.1)) (unread : k ∉ keys) (setting : IsSetting o) :
      SettingsEdit keys (before ++ after) (before ++ (some k, o) :: after)
  | reorder {ms ms' : List (Text × Outline)} (h : ms.Perm ms') : SettingsEdit keys ms ms'

namespace SettingsEdit

variable {keys : List String} {ms ms' : List (Text × Outline)}

theorem nodup (e : SettingsEdit keys ms ms') (h : (ms.map (·.1)).Nodup) :
    (ms'.map (·.1)).Nodup := by
  cases e with
  | reorder hp => exact (hp.map _).nodup_iff.mp h
  | @add before after k o fresh unread setting =>
    have first : (((some k, o) :: (before ++ after)).map (·.1)).Nodup :=
      List.nodup_cons.mpr ⟨fresh, h⟩
    have moved : ((some k, o) :: (before ++ after)).Perm (before ++ (some k, o) :: after) :=
      List.perm_middle.symm
    exact (moved.map (·.1)).nodup_iff.mp first

theorem readMembers (e : SettingsEdit keys ms ms') {depth : Nat} {fields : List (String × Value)}
    (h : JsonReader.readMembers depth ms = .ok fields) :
    ∃ fields', JsonReader.readMembers depth ms' = .ok fields' ∧
      ∀ k ∈ keys, ∀ v, (k, v) ∈ fields ↔ (k, v) ∈ fields' := by
  cases e with
  | reorder hp =>
    obtain ⟨fields', read, same⟩ := JsonReader.readMembers_perm h hp
    exact ⟨fields', read, fun k _ v => same.mem_iff⟩
  | @add before after key o fresh unread setting =>
    obtain ⟨w, kept⟩ := JsonReader.readValue_isSetting setting depth
    have first : JsonReader.readMembers depth ((some key, o) :: (before ++ after)) =
        .ok ((key, w) :: fields) :=
      JsonReader.readMembers_eq_ok.mpr (.cons ⟨rfl, kept⟩ (JsonReader.readMembers_eq_ok.mp h))
    obtain ⟨fields', read, same⟩ := JsonReader.readMembers_perm first List.perm_middle.symm
    refine ⟨fields', read, fun k hk v => ?_⟩
    have other : k ≠ key := by
      rintro rfl
      exact unread hk
    rw [← same.mem_iff, List.mem_cons]
    simp [other]

/-- The configuration is still read, and no entry that counts has changed. -/
theorem readConfiguration (e : SettingsEdit keys ms ms') (hd : (ms.map (·.1)).Nodup) {depth : Nat}
    {closed : Bool} {c : List (String × Value)}
    (h : JsonReader.readConfiguration depth (.object ms closed) = .ok c) :
    ∃ c', JsonReader.readConfiguration depth (.object ms' closed) = .ok c' ∧ AgreeOn keys c c' ∧
      (c.map (·.1)).Nodup ∧ (c'.map (·.1)).Nodup := by
  have sorted (fields : List (String × Value)) : ((Json.sortMembers fields).map (·.1)).Nodup := by
    have strict := Json.keysSorted_sortMembers fields
    exact List.pairwise_map.mpr (strict.imp fun lt => String.ne_of_lt lt)
  rw [JsonReader.readConfiguration] at h
  obtain ⟨_, entered, h⟩ := Outcome.bind_eq_ok.mp h
  obtain ⟨fields, read, left⟩ := Outcome.bind_eq_ok.mp h
  obtain rfl := JsonReader.eq_of_leave left
  obtain ⟨fields', read', same⟩ := e.readMembers read
  have distinct := JsonReader.nodup_fields read hd
  have distinct' := JsonReader.nodup_fields read' (e.nodup hd)
  refine ⟨Json.sortMembers fields', ?_, fun k hk => ?_, sorted fields, sorted fields'⟩
  · rw [JsonReader.readConfiguration, JsonReader.closed_of_leave left]
    exact Outcome.bind_eq_ok.mpr ⟨_, entered, Outcome.bind_eq_ok.mpr ⟨fields', read', rfl⟩⟩
  · rw [find?_sortMembers, find?_sortMembers]
    apply Option.ext
    intro v
    rw [find?_eq_some_iff, find?_eq_some_iff, List.mem_reverse, List.mem_reverse]
    · exact same k hk v
    · rwa [List.map_reverse, List.nodup_reverse]
    · rwa [List.map_reverse, List.nodup_reverse]

end SettingsEdit

end Document

end PipelineCompiler
