import PipelineCompiler.Proofs.Document.Gist
import PipelineCompiler.Proofs.Yaml.Literals
import PipelineCompiler.Proofs.Yaml.Styles

namespace PipelineCompiler.Document.YamlReader

open Decimal (Literal)
open Json (Value)
open PipelineCompiler.Configuration (gist gists)

section Agrees

variable {α β γ δ : Type}

/-- Two successes with related results and the same count, or two failures. -/
inductive Alike (R : α → β → Prop) :
    Except PlacedFault (α × Nat) → Except PlacedFault (β × Nat) → Prop
  | ok {a : α} {b : β} (count : Nat) (h : R a b) : Alike R (.ok (a, count)) (.ok (b, count))
  | error (e e' : PlacedFault) : Alike R (.error e) (.error e')

theorem Alike.exists_ok_iff {x y : Except PlacedFault (α × Nat)} (h : Alike Eq x y) (a : α) :
    (∃ count, x = .ok (a, count)) ↔ ∃ count, y = .ok (a, count) := by
  cases h with
  | ok count same => rw [same]
  | error e e' => constructor <;> rintro ⟨count, ⟨⟩⟩

def Agrees (R : α → β → Prop) (x : Reader α) (y : Reader β) : Prop :=
  ∀ count, Alike R (x.run count) (y.run count)

def Fails (x : Reader α) : Prop := ∀ count, ∃ e, x.run count = .error e

theorem fails_fail (place : Place) (fault : Fault) : Fails (fail (α := α) place fault) :=
  fun _ => ⟨⟨place, fault⟩, rfl⟩

theorem fails_malformed : Fails (malformed (α := α)) := fails_fail [] .malformed

theorem fails_mismatch (place : Place) (expected : Shape) (n : Yaml.Node) :
    Fails (mismatch (α := α) place expected n) := by
  unfold mismatch
  split
  · exact fails_fail place _
  · exact fails_malformed

namespace Agrees

variable {R : α → β → Prop} {S : γ → δ → Prop}

theorem pure {a : α} {b : β} (h : R a b) : Agrees R (Pure.pure a) (Pure.pure b) :=
  fun count => .ok count h

theorem of_fails {x : Reader α} {y : Reader β} (hx : Fails x) (hy : Fails y) : Agrees R x y := by
  intro count
  obtain ⟨e, he⟩ := hx count
  obtain ⟨e', he'⟩ := hy count
  rw [he, he']
  exact .error e e'

theorem refl (x : Reader α) : Agrees Eq x x := by
  intro count
  cases x.run count with
  | ok p => exact .ok p.2 rfl
  | error e => exact .error e e

theorem bind {x : Reader α} {y : Reader β} {f : α → Reader γ} {g : β → Reader δ} (h : Agrees R x y)
    (next : ∀ a b, R a b → Agrees S (f a) (g b)) : Agrees S (x >>= f) (y >>= g) := by
  intro count
  have first := h count
  rw [StateT.run_bind, StateT.run_bind]
  generalize x.run count = p at first ⊢
  generalize y.run count = q at first ⊢
  cases first with
  | ok count related => exact next _ _ related count
  | error e e' => exact .error e e'

theorem bind_same {x y : Reader α} {f : α → Reader γ} {g : α → Reader δ} (h : Agrees Eq x y)
    (next : ∀ a, Agrees S (f a) (g a)) : Agrees S (x >>= f) (y >>= g) :=
  h.bind fun a _ same => same ▸ next a

theorem map {x : Reader α} {y : Reader β} {f : α → γ} {g : β → δ} (h : Agrees R x y)
    (next : ∀ a b, R a b → S (f a) (g b)) : Agrees S (f <$> x) (g <$> y) := by
  rw [map_eq_pure_bind, map_eq_pure_bind]
  exact h.bind fun a b related => .pure (next a b related)

theorem mono {R' : α → β → Prop} {x : Reader α} {y : Reader β} (h : Agrees R x y)
    (weaker : ∀ a b, R a b → R' a b) : Agrees R' x y := by
  intro count
  have both := h count
  generalize x.run count = p at both ⊢
  generalize y.run count = q at both ⊢
  cases both with
  | ok count related => exact .ok count (weaker _ _ related)
  | error e e' => exact .error e e'

theorem leave {R : α → β → Prop} {a : α} {b : β} (closed : Bool) (h : R a b) :
    Agrees R (leave closed a) (leave closed b) := by
  cases closed with
  | true => exact pure h
  | false => exact of_fails fails_malformed fails_malformed

end Agrees

theorem agrees_lift (place : Place) {x : Except Fault α} {y : Except Fault β} {R : α → β → Prop}
    (forth : ∀ a, x = .ok a → ∃ b, y = .ok b ∧ R a b) (back : ∀ b, y = .ok b → ∃ a, x = .ok a) :
    Agrees R (lift place x) (lift place y) := by
  cases x with
  | ok a =>
    obtain ⟨b, rfl, related⟩ := forth a rfl
    exact .pure related
  | error e =>
    cases y with
    | ok b =>
      obtain ⟨a, ⟨⟩⟩ := back b rfl
    | error e' => exact .of_fails (fails_fail place e) (fails_fail place e')

end Agrees

def Anchors.quoted (v : String) (anchors : Anchors) : Anchors :=
  { anchors with nodes := anchors.nodes.map fun p => (p.1, p.2.quoted v) }

theorem Anchors.ofDocument_quoted (v : String) (d : Yaml.Document) :
    Anchors.ofDocument (d.quoted v) = (Anchors.ofDocument d).quoted v := by
  obtain ⟨root, complete⟩ := d
  cases root with
  | none => rfl
  | some n =>
    simp [Anchors.ofDocument, Anchors.quoted, Yaml.Document.quoted, Yaml.Document.anchors,
      Yaml.Document.size, Yaml.Node.anchored_quoted, Yaml.Node.size_quoted]

theorem lookup_quoted (v : String) (nodes : List (Nat × Yaml.Node)) (id : Nat) :
    (nodes.map fun p => (p.1, p.2.quoted v)).lookup id =
      (nodes.lookup id).map (Yaml.Node.quoted v) := by
  induction nodes with
  | nil => rfl
  | cons p rest ih =>
    rw [List.map_cons, List.lookup_cons, List.lookup_cons, ih]
    cases id == p.1 <;> rfl

mutual

theorem isWhole_quoted (v : String) : ∀ n : Yaml.Node, isWhole (n.quoted v) = isWhole n
  | .alias _ | .broken | .scalar _ _ => rfl
  | .sequence a t items closed => by simp [Yaml.Node.quoted, isWhole, areWhole_quoted v items]
  | .mapping a t entries closed => by simp [Yaml.Node.quoted, isWhole,
    arePairsWhole_quoted v entries]

theorem areWhole_quoted (v : String) : ∀ items : List Yaml.Node,
    areWhole (Yaml.Node.quotedItems v items) = areWhole items
  | [] => rfl
  | n :: rest => by simp [Yaml.Node.quotedItems, areWhole, isWhole_quoted v n,
    areWhole_quoted v rest]

theorem arePairsWhole_quoted (v : String) : ∀ entries : List (Yaml.Node × Yaml.Node),
    arePairsWhole (Yaml.Node.quotedEntries v entries) = arePairsWhole entries
  | [] => rfl
  | (k, n) :: rest => by
      simp [Yaml.Node.quotedEntries, arePairsWhole, isWhole_quoted v k, isWhole_quoted v n,
        arePairsWhole_quoted v rest]

end

theorem agrees_skip (v : String) (n : Yaml.Node) : Agrees Eq (skip n) (skip (n.quoted v)) := by
  rw [skip, skip, isWhole_quoted]
  exact .refl _

theorem under_quoted (v : String) (place : Place) (k : Yaml.Node) :
    under place (k.quoted v) = under place k := by
  cases k <;> rfl

section Texts

variable (v : String) (anchors : Anchors)

/-- An alias stands for the quoted node. -/
theorem agrees_follow (n : Yaml.Node) :
    Agrees (fun m m' => m' = m.quoted v) (follow anchors n)
      (follow (anchors.quoted v) (n.quoted v)) := by
  cases n
  case «alias» id =>
    have known := lookup_quoted v anchors.nodes id
    unfold follow
    dsimp only [Yaml.Node.quoted]
    refine .bind_same (.refl _) fun _ => .bind_same (.refl _) fun count => ?_
    rw [show (anchors.quoted v).limit = anchors.limit from rfl]
    split
    · exact .of_fails fails_malformed fails_malformed
    · rw [show (anchors.quoted v).nodes = anchors.nodes.map fun p =>
        (p.1, p.2.quoted v) from rfl, known]
      cases anchors.nodes.lookup id with
      | none => exact .of_fails fails_malformed fails_malformed
      | some n => exact .pure rfl
  all_goals exact .pure rfl

variable {anchors} in
theorem agrees_follow_bind {β : Type} {S : β → β → Prop} {f g : Yaml.Node → Reader β}
    (next : ∀ m, Agrees S (f m) (g (m.quoted v))) (n : Yaml.Node) :
    Agrees S (follow anchors n >>= f) (follow (anchors.quoted v) (n.quoted v) >>= g) :=
  (agrees_follow v anchors n).bind fun m _ same => same ▸ next m

theorem agrees_readText (expected : Shape) (place : Place) (n : Yaml.Node) :
    Agrees Eq (readText anchors expected place n)
      (readText (anchors.quoted v) expected place (n.quoted v)) := by
  refine agrees_follow_bind v (fun m => ?_) n
  cases m with
  | scalar a s => exact .pure rfl
  | _ => exact .of_fails (fails_mismatch _ _ _) (fails_mismatch _ _ _)

theorem agrees_readItems {α : Type} {R : α → α → Prop} {read read' : Place → Yaml.Node → Reader α}
    (h : ∀ place n, Agrees R (read place n) (read' place (n.quoted v))) (place : Place) (i : Nat)
    (items : List Yaml.Node) :
    Agrees (List.Forall₂ R) (readItems read place i items)
      (readItems read' place i (Yaml.Node.quotedItems v items)) := by
  induction items generalizing i with
  | nil => exact .pure .nil
  | cons n rest ih =>
    refine .bind (h _ n) fun a b first => .bind (ih (i + 1)) fun as bs others => ?_
    exact .pure (.cons first others)

/-- Values that count for the same. -/
def SameGist (x y : Value) : Prop := gist x = gist y

def SameGists (c c' : List (String × Value)) : Prop := gists c = gists c'

theorem agrees_readMembers {read read' : Place → Yaml.Node → Reader Value}
    (h : ∀ place n, Agrees SameGist (read place n) (read' place (n.quoted v))) (place : Place)
    (expected : Shape) (entries : List (Yaml.Node × Yaml.Node)) :
    Agrees SameGists (readMembers anchors read place expected entries)
      (readMembers (anchors.quoted v) read' place expected
        (Yaml.Node.quotedEntries v entries)) := by
  induction entries generalizing expected with
  | nil => exact .pure rfl
  | cons e rest ih =>
    obtain ⟨k, n⟩ := e
    refine .bind_same (agrees_readText v anchors expected place k) fun key => ?_
    rw [under_quoted]
    refine .bind (h _ n) fun x y same => .bind (ih .text) fun c c' others => ?_
    exact .pure (congrArg₂ (fun x c => (key, x) :: c) same others)

end Texts

section Kept

variable {v : Literal} (short : v.IsShort) (kept : v.trimmed = v)

/-- No literal is empty, so quotes make nothing of a scalar that is not written. -/
theorem isAbsent_quoted (v : Literal) (s : Yaml.Scalar) :
    isAbsent (s.quoted v.text) = isAbsent s := by
  unfold isAbsent Yaml.Scalar.quoted
  by_cases same : s.text = v.text
  · have some : (s.text == "") = false := by simpa [same] using v.text_ne_empty
    rw [some, Bool.false_and, Bool.false_and]
  · rw [if_neg same]

/-- A scalar where a container is asked for. -/
theorem agrees_absent {α : Type} {R : α → α → Prop} {x y : Reader α} (h : Agrees R x y)
    (place : Place) (expected : Shape) (a : Option Nat) (s : Yaml.Scalar) :
    Agrees R (if isAbsent s then x else mismatch place expected (.scalar a s))
      (if isAbsent (s.quoted v.text) then y
        else mismatch place expected (.scalar a (s.quoted v.text))) := by
  rw [isAbsent_quoted]
  split
  · exact h
  · exact .of_fails (fails_mismatch _ _ _) (fails_mismatch _ _ _)

/-- Quotes matter to a scalar that is not in quotes, and only if no core tag
asks for a kind of value. -/
theorem scalar_style (text : String) (tag : Option String) (style : Yaml.Style) :
    Yaml.Resolve.scalar ⟨text, style, tag⟩ = Yaml.Resolve.scalar ⟨text, .doubleQuoted, tag⟩ ∨
      Yaml.Resolve.scalar ⟨text, style, tag⟩ = Yaml.Resolve.plain text ∧
        Yaml.Resolve.scalar ⟨text, .doubleQuoted, tag⟩ = .text text := by
  by_cases plain : style = .plain
  · cases tag with
    | none => exact .inr (by simp [Yaml.Resolve.scalar, plain])
    | some tag =>
      simp only [Yaml.Resolve.scalar, plain]
      split_ifs <;> simp_all
  · exact .inl (by simp [Yaml.Resolve.scalar, plain])

include short in
theorem exists_readScalar :
    ∃ n : Json.Number, readScalar ⟨v.text, .plain, none⟩ = pure (.number n) ∧
    n.text = v.trimmed.text := by
  obtain ⟨n, plain, number, fits⟩ := Yaml.Resolve.exists_plain v short
  refine ⟨n, ?_, number⟩
  have resolved : Yaml.Resolve.scalar ⟨v.text, .plain, none⟩ = Yaml.Resolve.ofNumber n := plain
  rw [readScalar, resolved]
  cases n with
  | int i => exact if_pos (fits i rfl)
  | double negative x => rfl

include short kept in
/-- A scalar counts for the same with quotes. -/
theorem agrees_readScalar (s : Yaml.Scalar) :
    Agrees SameGist (readScalar s) (readScalar (s.quoted v.text)) := by
  obtain ⟨text, style, tag⟩ := s
  have refl (s : Yaml.Scalar) : Agrees SameGist (readScalar s) (readScalar s) :=
    (Agrees.refl _).mono fun _ _ same => congrArg gist same
  by_cases same : text = v.text
  · -- Without quotes a number is read, with quotes the text of that number.
    subst same
    obtain ⟨n, value, number⟩ := exists_readScalar short
    rw [kept] at number
    have quoted : Yaml.Scalar.quoted v.text ⟨v.text, style, tag⟩ = ⟨v.text,
      .doubleQuoted, tag⟩ := by
      simp [Yaml.Scalar.quoted]
    rw [quoted]
    rcases scalar_style v.text tag style with eq | ⟨resolved, resolved'⟩
    · have same : readScalar ⟨v.text, style, tag⟩ = readScalar ⟨v.text, .doubleQuoted, tag⟩ := by
        rw [readScalar, readScalar, eq]
      rw [same]
      exact refl _
    · have read : readScalar ⟨v.text, style, tag⟩ = pure (.number n) := by
        rw [← value, readScalar, resolved]
        rfl
      have read' : readScalar ⟨v.text, .doubleQuoted, tag⟩ = pure (.text v.text) := by
        rw [readScalar, resolved']
      rw [read, read']
      exact .pure (congrArg Value.text number)
  · have quoted : Yaml.Scalar.quoted v.text ⟨text, style, tag⟩ = ⟨text, style, tag⟩ := by
      simp [Yaml.Scalar.quoted, same]
    rw [quoted]
    exact refl _

variable (anchors : Anchors)

section

include short kept

/-- A value, its items and members read by what agrees, or both times not at all. -/
theorem agrees_readOuter {inner inner' : Option (Place → Yaml.Node → Reader Value)}
    (h : (inner = none ∧ inner' = none) ∨ ∃ read read', inner = some read ∧ inner' = some read' ∧
      ∀ place n, Agrees SameGist (read place n) (read' place (n.quoted v.text)))
        (place : Place) (n : Yaml.Node) :
    Agrees SameGist (readOuter anchors inner place n)
      (readOuter (anchors.quoted v.text) inner' place (n.quoted v.text)) := by
  refine agrees_follow_bind v.text (fun m => ?_) n
  rcases h with ⟨rfl, rfl⟩ | ⟨read, read', rfl, rfl, h⟩
  · cases m with
    | scalar a s => exact .bind_same (.refl _) fun _ => agrees_readScalar short kept s
    | sequence a t items closed =>
      exact .bind_same (.refl _) fun _ => .of_fails fails_malformed fails_malformed
    | mapping a t entries closed =>
      exact .bind_same (.refl _) fun _ => .of_fails fails_malformed fails_malformed
    | _ => exact .of_fails fails_malformed fails_malformed
  · cases m with
    | scalar a s => exact .bind_same (.refl _) fun _ => agrees_readScalar short kept s
    | sequence a t items closed =>
      refine .bind_same (.refl _) fun _ =>
        .bind (agrees_readItems v.text h place 0 items) fun xs ys _ => ?_
      exact .leave closed rfl
    | mapping a t entries closed =>
      refine .bind_same (.refl _) fun _ =>
        .bind (agrees_readMembers v.text anchors h place .textKey entries) ?_
      exact fun c c' _ => .leave closed rfl
    | _ => exact .of_fails fails_malformed fails_malformed

theorem agrees_readValue (depth : Nat) (place : Place) (n : Yaml.Node) :
    Agrees SameGist (readValue anchors depth place n)
      (readValue (anchors.quoted v.text) depth place (n.quoted v.text)) := by
  induction depth generalizing place n with
  | zero => exact agrees_readOuter short kept anchors (.inl ⟨rfl, rfl⟩) place n
  | succ depth ih => exact agrees_readOuter short kept anchors (.inr ⟨_, _, rfl, rfl, ih⟩) place n

theorem agrees_readConfiguration (place : Place) (n : Yaml.Node) :
    Agrees SameGists (readConfiguration anchors place n)
      (readConfiguration (anchors.quoted v.text) place (n.quoted v.text)) := by
  refine agrees_follow_bind v.text (fun m => ?_) n
  cases m with
  | scalar a s => exact agrees_absent (R := SameGists) (.pure rfl) place _ a s
  | mapping a t entries closed =>
    refine .bind (agrees_readMembers v.text anchors (agrees_readValue short kept anchors _) place
      .text entries) ?_
    intro c c' same
    refine .leave closed ?_
    unfold SameGists gists at same ⊢
    rw [← Json.sortMembers_map, same, Json.sortMembers_map]
  | _ => exact .of_fails (fails_mismatch _ _ _) (fails_mismatch _ _ _)

end

include short in
theorem agrees_readNothing (place : Place) (s : Yaml.Scalar) :
    Agrees Eq (readNothing place s) (readNothing place (s.quoted v.text)) := by
  unfold readNothing Yaml.Scalar.quoted
  by_cases same : s.text = v.text
  · have some : ¬ (s.text = "" ∨ Yaml.Resolve.isNull s.text = true) := by
      rw [same, Yaml.Resolve.not_isNull v short]
      simp [v.text_ne_empty]
    rw [if_neg fun h => some h.2, if_neg fun h => some h.2]
    exact .of_fails (fails_mismatch _ _ _) (fails_mismatch _ _ _)
  · rw [if_neg same]
    exact .refl _

include short in
theorem agrees_readRole (place : Place) (n : Yaml.Node) :
    Agrees Eq (readRole anchors place n)
      (readRole (anchors.quoted v.text) place (n.quoted v.text)) := by
  refine agrees_follow_bind v.text (fun m => ?_) n
  cases m with
  | scalar a s =>
    dsimp only [Yaml.Node.quoted]
    rw [show (s.quoted v.text).tag = s.tag from rfl, show (s.quoted v.text).text = s.text from rfl]
    cases variant? s.tag with
    | none => exact .refl _
    | some name =>
      exact .bind_same (.refl _) fun role =>
        .bind_same (agrees_readNothing short place s) fun _ => .pure rfl
  | sequence a tag items closed =>
    dsimp only [Yaml.Node.quoted]
    cases variant? tag with
    | none => exact .of_fails (fails_mismatch _ _ _) (fails_mismatch _ _ _)
    | some name =>
      exact .bind_same (.refl _) fun _ => .of_fails (fails_mismatch _ _ _) (fails_mismatch _ _ _)
  | mapping a tag entries closed =>
    dsimp only [Yaml.Node.quoted]
    cases variant? tag with
    | none => exact .of_fails (fails_mismatch _ _ _) (fails_mismatch _ _ _)
    | some name =>
      exact .bind_same (.refl _) fun _ => .of_fails (fails_mismatch _ _ _) (fails_mismatch _ _ _)
  | _ => exact .of_fails fails_malformed fails_malformed

end Kept

section Records

variable {α : Type}

theorem agrees_once {R : α → α → Prop} (record : Place) (name : String) {old old' : Option α}
    (h : Option.Rel R old old') {read read' : Reader α} (agree : Agrees R read read') :
    Agrees (Option.Rel R) (once record name old read) (once record name old' read') := by
  cases h with
  | some h => exact .of_fails (fails_fail _ _) (fails_fail _ _)
  | none => exact .map agree fun a b related => .some related

theorem agrees_once_eq (record : Place) (name : String) (old : Option α) {read read' : Reader α}
    (agree : Agrees Eq read read') :
    Agrees Eq (once record name old read) (once record name old read') := by
  cases old with
  | some a => exact .refl _
  | none => exact .map agree fun a b same => congrArg some same

variable (v : String) (anchors : Anchors)

theorem agrees_readFields {σ : Type} {R : σ → σ → Prop} (place : Place)
    {step step' : σ → String → Place → Yaml.Node → Reader σ}
    (h : ∀ s s', R s s' →
      ∀ key place n, Agrees R (step s key place n) (step' s' key place (n.quoted v)))
    {s s' : σ} (start : R s s') (entries : List (Yaml.Node × Yaml.Node)) :
    Agrees R (readFields anchors place step s entries)
      (readFields (anchors.quoted v) place step' s' (Yaml.Node.quotedEntries v entries)) := by
  induction entries generalizing s s' with
  | nil => exact .pure start
  | cons e rest ih =>
    obtain ⟨k, n⟩ := e
    refine .bind_same (agrees_readText v anchors .field place k) fun key => ?_
    rw [under_quoted]
    exact .bind (h s s' start key _ n) fun t t' next => ih next

end Records

section Kept

variable {v : Literal} (anchors : Anchors)

theorem agrees_readRecord {σ α : Type} {R : σ → σ → Prop} {S : α → α → Prop}
    (name : String) {empty : σ} (refl : R empty empty)
    {step step' : Place → σ → String → Place → Yaml.Node → Reader σ}
    (h : ∀ record s s', R s s' → ∀ key place n,
      Agrees R (step record s key place n) (step' record s' key place (n.quoted v.text)))
    {finish : σ → Except Fault α} (place : Place)
    (done : ∀ s s', R s s' → Agrees S (lift place (finish s)) (lift place (finish s')))
    (n : Yaml.Node) :
    Agrees S (readRecord anchors name empty step finish place n)
      (readRecord (anchors.quoted v.text) name empty step' finish place (n.quoted v.text)) := by
  refine agrees_follow_bind v.text (fun m => ?_) n
  cases m with
  | scalar a s => exact agrees_absent (done empty empty refl) place _ a s
  | mapping a t entries closed =>
    refine .bind (agrees_readFields v.text anchors place (h place) refl entries) fun s s' same => ?_
    exact .bind (.leave closed same) fun t t' same => done t t' same
  | _ => exact .of_fails (fails_mismatch _ _ _) (fails_mismatch _ _ _)

theorem agrees_readList {α : Type} {read read' : Place → Yaml.Node → Reader α}
    (h : ∀ place n, Agrees Eq (read place n) (read' place (n.quoted v.text))) (place : Place)
    (n : Yaml.Node) :
    Agrees Eq (readList anchors read place n)
      (readList (anchors.quoted v.text) read' place (n.quoted v.text)) := by
  refine agrees_follow_bind v.text (fun m => ?_) n
  cases m with
  | scalar a s => exact agrees_absent (.pure rfl) place _ a s
  | sequence a t items closed =>
    refine .bind (agrees_readItems v.text h place 0 items) fun as bs same => ?_
    rw [List.forall₂_eq_eq_eq] at same
    exact .leave closed same
  | _ => exact .of_fails (fails_mismatch _ _ _) (fails_mismatch _ _ _)

theorem agrees_edgeField (record : Place) (f : EdgeFields) (key : String) (place : Place)
    (n : Yaml.Node) :
    Agrees Eq (edgeField anchors record f key place n)
      (edgeField (anchors.quoted v.text) record f key place (n.quoted v.text)) := by
  have text := agrees_readText v.text anchors .text place n
  unfold edgeField
  split
  · exact .bind_same (agrees_once_eq record _ _ text) fun _ => .pure rfl
  · exact .bind_same (agrees_once_eq record _ _ text) fun _ => .pure rfl
  · exact .bind_same (agrees_skip v.text n) fun _ => .pure rfl

theorem agrees_readEdge (place : Place) (n : Yaml.Node) :
    Agrees Eq (readEdge anchors place n)
      (readEdge (anchors.quoted v.text) place (n.quoted v.text)) := by
  refine agrees_readRecord (R := Eq) anchors edgeName rfl ?_ place ?_ n
  · rintro record f _ rfl key place n
    exact agrees_edgeField anchors record f key place n
  · rintro f _ rfl
    exact .refl _

/-- Fields of a node, the configuration up to what its values count for. -/
structure SameFields (f f' : NodeFields) : Prop where
  id : f.id = f'.id
  role : f.role = f'.role
  blockType : f.blockType = f'.blockType
  label : f.label = f'.label
  configuration : Option.Rel SameGists f.configuration f'.configuration

/-- Records, the configuration up to what its values count for. -/
def SameRecord (r r' : NodeRecord) : Prop :=
  ∃ c, r' = { r with configuration := c } ∧ SameGists r.configuration c

theorem SameFields.toRecord {f f' : NodeFields} (h : SameFields f f') (place : Place) :
    Agrees SameRecord (lift place f.toRecord) (lift place f'.toRecord) := by
  obtain ⟨id, role, blockType, label, configuration⟩ := f
  obtain ⟨_, _, _, _, configuration'⟩ := f'
  obtain ⟨rfl, rfl, rfl, rfl, same⟩ := h
  have found : SameGists (configuration.getD []) (configuration'.getD []) := by
    cases same with
    | some same => exact same
    | none => rfl
  cases id with
  | none => exact .of_fails (fails_fail _ _) (fails_fail _ _)
  | some id =>
    cases role with
    | none => exact .of_fails (fails_fail _ _) (fails_fail _ _)
    | some role =>
      cases blockType with
      | none => exact .of_fails (fails_fail _ _) (fails_fail _ _)
      | some blockType => exact .pure ⟨_, rfl, found⟩

section

variable (short : v.IsShort) (kept : v.trimmed = v)
include short kept

theorem agrees_nodeField (record : Place) {f f' : NodeFields} (h : SameFields f f') (key : String)
    (place : Place) (n : Yaml.Node) : Agrees SameFields (nodeField anchors record f key place n)
      (nodeField (anchors.quoted v.text) record f' key place (n.quoted v.text)) := by
  obtain ⟨id, role, blockType, label, configuration⟩ := f
  obtain ⟨_, _, _, _, configuration'⟩ := f'
  obtain ⟨rfl, rfl, rfl, rfl, same⟩ := h
  have text := agrees_readText v.text anchors .text place n
  have role := agrees_readRole short anchors place n
  unfold nodeField
  split
  · exact .bind_same (agrees_once_eq record _ _ text) fun _ => .pure ⟨rfl, rfl, rfl, rfl, same⟩
  · exact .bind_same (agrees_once_eq record _ _ role) fun _ => .pure ⟨rfl, rfl, rfl, rfl, same⟩
  · exact .bind_same (agrees_once_eq record _ _ text) fun _ => .pure ⟨rfl, rfl, rfl, rfl, same⟩
  · exact .bind_same (agrees_once_eq record _ _ text) fun _ => .pure ⟨rfl, rfl, rfl, rfl, same⟩
  · refine .bind (agrees_once record _ same (agrees_readConfiguration short kept anchors place n))
      fun c c' read => ?_
    exact .pure ⟨rfl, rfl, rfl, rfl, read⟩
  · exact .bind_same (agrees_skip v.text n) fun _ => .pure ⟨rfl, rfl, rfl, rfl, same⟩

theorem agrees_readNode (place : Place) (n : Yaml.Node) :
    Agrees Eq (readNode anchors place n)
      (readNode (anchors.quoted v.text) place (n.quoted v.text)) := by
  have empty : SameFields {} {} := ⟨rfl, rfl, rfl, rfl, .none⟩
  have record := agrees_readRecord (S := SameRecord) anchors nodeName empty
    (fun record f f' h key place n =>
      agrees_nodeField anchors short kept record h key place n) place
    (fun f f' h => h.toRecord place) n
  refine .bind record ?_
  rintro r _ ⟨c, rfl, same⟩
  have nodes := NodeRecord.toNode_of_gists_eq same
  exact agrees_lift _ (fun m h => ⟨m, (nodes m).mpr h, rfl⟩) fun m h => ⟨m, (nodes m).mp h⟩

theorem agrees_graphField (record : Place) (f : GraphFields) (key : String) (place : Place)
    (n : Yaml.Node) :
    Agrees Eq (graphField anchors record f key place n)
      (graphField (anchors.quoted v.text) record f key place (n.quoted v.text)) := by
  have nodes := agrees_readList anchors (agrees_readNode anchors short kept) place n
  have edges := agrees_readList anchors (agrees_readEdge (v := v) anchors) place n
  unfold graphField
  split
  · exact .bind_same (agrees_once_eq record _ _ nodes) fun _ => .pure rfl
  · exact .bind_same (agrees_once_eq record _ _ edges) fun _ => .pure rfl
  · exact .bind_same (agrees_skip v.text n) fun _ => .pure rfl

theorem agrees_readGraph (place : Place) (n : Yaml.Node) :
    Agrees Eq (readGraph anchors place n)
      (readGraph (anchors.quoted v.text) place (n.quoted v.text)) := by
  refine agrees_readRecord (R := Eq) anchors graphName rfl ?_ place ?_ n
  · rintro record f _ rfl key place n
    exact agrees_graphField anchors short kept record f key place n
  · rintro f _ rfl
    exact .refl _

end

/-- The graph of a document. -/
def graphOf (d : Yaml.Document) : Except PlacedFault Graph := do
  let graph ←
    match d.root with
    | some n => (readGraph (.ofDocument d) [] n).run' 0
    | none => pure {}
  if d.complete then .ok graph else .error ⟨[], .malformed⟩

theorem graphOfText_eq (text : String) : graphOfText text = graphOf (Yaml.Document.ofText text) :=
  rfl

theorem graphOf_eq_ok {n : Yaml.Node} {complete : Bool} {g : Graph} :
    graphOf ⟨some n, complete⟩ = .ok g ↔
    (∃ count, (readGraph (.ofDocument ⟨some n, complete⟩) [] n).run 0 = .ok (g, count)) ∧
    complete = true := by
  have first (x : Reader Graph) : x.run' 0 = .ok g ↔ ∃ count, x.run 0 = .ok (g, count) := by
    have run : x.run' 0 = (x.run 0).map Prod.fst := rfl
    rw [run, Outcome.map_eq_ok]
    constructor
    · rintro ⟨p, read, rfl⟩
      exact ⟨p.2, read⟩
    · rintro ⟨count, read⟩
      exact ⟨_, read, rfl⟩
  rw [graphOf, Outcome.bind_eq_ok, ← first]
  constructor
  · rintro ⟨g, read, whole⟩
    split at whole
    · next closed =>
      cases whole
      exact ⟨read, closed⟩
    · cases whole
  · rintro ⟨read, closed⟩
    exact ⟨g, read, if_pos closed⟩

/-- A document and the same with every text of a literal in quotes. -/
theorem graphOf_quoted (short : v.IsShort) (kept : v.trimmed = v) (d : Yaml.Document) (g : Graph) :
    graphOf (d.quoted v.text) = .ok g ↔ graphOf d = .ok g := by
  obtain ⟨root, complete⟩ := d
  cases root with
  | none => exact Iff.rfl
  | some n =>
    have both := agrees_readGraph (Anchors.ofDocument ⟨some n, complete⟩) short kept [] n 0
    rw [← Anchors.ofDocument_quoted] at both
    have quoted : Yaml.Document.quoted v.text ⟨some n, complete⟩ = ⟨some (n.quoted v.text),
      complete⟩ := rfl
    rw [quoted] at both ⊢
    rw [graphOf_eq_ok, graphOf_eq_ok, both.exists_ok_iff]

/-- Tokens that differ by no more than the quotes around a literal. -/
def SameTexts (v : Literal) : List Yaml.Token → List Yaml.Token → Prop :=
  List.Forall₂ fun t t' =>
    t = t' ∨ ∃ style style', t = .scalar v.text style ∧ t' = .scalar v.text style'

theorem SameTexts.map_quoted {tokens tokens' : List Yaml.Token} (h : SameTexts v tokens tokens') :
    tokens.map (Yaml.Token.quoted v.text) = tokens'.map (Yaml.Token.quoted v.text) := by
  induction h with
  | nil => rfl
  | cons same _ ih =>
    rw [List.map_cons, List.map_cons, ih]
    rcases same with rfl | ⟨style, style', rfl, rfl⟩
    · rfl
    · simp [Yaml.Token.quoted]

/-- Whether a literal is typed with quotes or without, the same graph is read. -/
theorem graphOfText_quoted (short : v.IsShort) (kept : v.trimmed = v) {text text' : String}
    (same : (Yaml.scan text).map (Yaml.Token.quoted v.text) =
      (Yaml.scan text').map (Yaml.Token.quoted v.text)) (g : Graph) :
    graphOfText text = .ok g ↔ graphOfText text' = .ok g := by
  have documents :
      (Yaml.Document.ofText text).quoted v.text = (Yaml.Document.ofText text').quoted v.text := by
    rw [Yaml.Document.ofText, Yaml.Document.ofText, ← Yaml.Document.ofTokens_quoted v.text_ne_empty,
      ← Yaml.Document.ofTokens_quoted v.text_ne_empty, same]
  rw [graphOfText_eq, graphOfText_eq, ← graphOf_quoted short kept (.ofText text), documents,
    graphOf_quoted short kept]

end Kept

end PipelineCompiler.Document.YamlReader
