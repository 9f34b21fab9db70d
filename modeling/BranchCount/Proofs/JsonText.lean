import BranchCount.Json.Basic
import BranchCount.Proofs.JsonGrammar

/-!
The compact text of a value is a text of the grammar, for the value that it shows, and no character
of it is a control character. Numbers are natural ones here: doubles have texts that are no JSON.
-/
namespace BranchCount.Json

/-- The numbers of the value, at any depth, are natural ones. -/
inductive Natural : Json → Prop where
  | null : Natural .null
  | bool (b : Bool) : Natural (.bool b)
  | nat (n : Nat) : Natural (.nat n)
  | str (s : String) : Natural (.str s)
  | arr {items : List Json} : (∀ v ∈ items, Natural v) → Natural (.arr items)
  | obj {members : List (String × Json)} : (∀ m ∈ members, Natural m.2) → Natural (.obj members)

mutual

/-- The value as it is written. -/
def tree : Json → Tree
  | .null => .null
  | .bool b => .bool b
  | .num n => .number (numberText n).toList
  | .str s => .text s
  | .arr items => .list (itemTrees items)
  | .obj members => .object (memberTrees members)

def itemTrees : List Json → List Tree
  | [] => []
  | v :: rest => tree v :: itemTrees rest

def memberTrees : List (String × Json) → List (String × Tree)
  | [] => []
  | (k, v) :: rest => (k, tree v) :: memberTrees rest

end

theorem itemTrees_eq (items : List Json) : itemTrees items = items.map tree := by
  induction items with
  | nil => rfl
  | cons v rest ih => rw [itemTrees, ih, List.map_cons]

theorem memberTrees_eq (members : List (String × Json)) :
    memberTrees members = members.map fun m => (m.1, m.2.tree) := by
  induction members with
  | nil => rfl
  | cons m rest ih => rw [memberTrees, ih, List.map_cons]

theorem numberText_nat (n : Nat) : (numberText (.integer n)).toList = Nat.toDigits 10 n := by
  show (toString n).toList = Nat.toDigits 10 n
  rw [Nat.toString_eq_ofList_toDigits, String.toList_ofList]

@[simp] theorem tree_nat (n : Nat) : (nat n).tree = .number (Nat.toDigits 10 n) :=
  congrArg Tree.number (numberText_nat n)

@[simp] theorem tree_str (s : String) : (str s).tree = .text s := rfl

@[simp] theorem tree_bool (b : Bool) : (bool b).tree = .bool b := rfl

@[simp] theorem tree_arr (items : List Json) : (arr items).tree = .list (items.map tree) :=
  congrArg Tree.list (itemTrees_eq items)

@[simp] theorem tree_obj (members : List (String × Json)) :
    (obj members).tree = .object (members.map fun m => (m.1, m.2.tree)) :=
  congrArg Tree.object (memberTrees_eq members)

/- The characters of a compact text. -/

def itemChars (items : List Json) : List Char :=
  (String.join (itemPieces items)).toList

def memberChars (members : List (String × Json)) : List Char :=
  (String.join (memberPieces members)).toList

theorem render_null : (render null).toList = ['n', 'u', 'l', 'l'] := by
  simp [render, pieces]

theorem render_bool (b : Bool) :
    (render (bool b)).toList = if b then ['t', 'r', 'u', 'e'] else ['f', 'a', 'l', 's', 'e'] := by
  cases b <;> simp [render, pieces]

theorem render_nat (n : Nat) : (render (nat n)).toList = Nat.toDigits 10 n := by
  rw [render, nat, pieces, String.join_cons, String.join_nil, String.append_empty, numberText_nat]

theorem render_str (s : String) :
    (render (str s)).toList = '"' :: (escape s.toList ++ ['"']) := by
  simp [render, pieces, quote]

theorem render_arr (items : List Json) :
    (render (arr items)).toList = '[' :: (itemChars items ++ [']']) := by
  simp [render, pieces, itemChars, String.join_append]

theorem render_obj (members : List (String × Json)) :
    (render (obj members)).toList = '\x7b' :: (memberChars members ++ ['\x7d']) := by
  simp [render, pieces, memberChars, String.join_append]

theorem itemChars_single (v : Json) : itemChars [v] = v.render.toList := by
  simp [itemChars, itemPieces, itemTail, render]

theorem itemChars_cons (v w : Json) (rest : List Json) :
    itemChars (v :: w :: rest) = v.render.toList ++ ',' :: itemChars (w :: rest) := by
  simp [itemChars, itemPieces, itemTail, render]

theorem memberChars_single (k : String) (v : Json) :
    memberChars [(k, v)] = '"' :: (escape k.toList ++ '"' :: ':' :: v.render.toList) := by
  simp [memberChars, memberPieces, memberTail, render, quote]

theorem memberChars_cons (k : String) (v : Json) (m : String × Json)
    (rest : List (String × Json)) :
    memberChars ((k, v) :: m :: rest) =
      '"' :: (escape k.toList ++
        '"' :: ':' :: (v.render.toList ++ ',' :: memberChars (m :: rest))) := by
  simp [memberChars, memberPieces, memberTail, render, quote]

/- Strings. -/

theorem hexDigit_digitChar {n : Nat} (bound : n < 16) : HexDigit (Nat.digitChar n) n := by
  have all : ∀ i : Fin 16, "0123456789abcdef".toList[i.val]? = some (Nat.digitChar i) := by decide
  exact .inl (all ⟨n, bound⟩)

theorem hexDigits_number {n : Nat} (bound : n < 65536) :
    ∃ a b c d, hexDigits n = [a, b, c, d] ∧ HexNumber a b c d n := by
  refine ⟨_, _, _, _, rfl, n / 4096 % 16, n / 256 % 16, n / 16 % 16, n % 16, ?_, ?_, ?_, ?_, ?_⟩
  · exact hexDigit_digitChar (Nat.mod_lt _ (by decide))
  · exact hexDigit_digitChar (Nat.mod_lt _ (by decide))
  · exact hexDigit_digitChar (Nat.mod_lt _ (by decide))
  · exact hexDigit_digitChar (Nat.mod_lt _ (by decide))
  · omega

/-- A character is escaped by a letter or by its code, or stands for itself. -/
theorem escapeChar_cases (c : Char) :
    (∃ l, (l, c) ∈ escapes ∧ escapeChar c = ['\\', l]) ∨
    (c.toNat < 32 ∧ escapeChar c = ['\\', 'u'] ++ hexDigits c.toNat) ∨
    (32 ≤ c.toNat ∧ c ≠ '"' ∧ c ≠ '\\' ∧ escapeChar c = [c]) := by
  by_cases letter : ∃ l, (l, c) ∈ escapes ∧ escapeChar c = ['\\', l]
  · exact .inl letter
  · have other : c ≠ '"' ∧ c ≠ '\\' ∧ c ≠ '\n' ∧ c ≠ '\r' ∧ c ≠ '\t' ∧ c ≠ '\x08' ∧ c ≠ '\x0c' := by
      refine ⟨?_, ?_, ?_, ?_, ?_, ?_, ?_⟩ <;>
        (rintro rfl; exact letter ⟨_, by decide, rfl⟩)
    by_cases control : c.toNat < 32
    · exact .inr (.inl ⟨control, by simp [escapeChar, other, control]⟩)
    · exact .inr (.inr ⟨Nat.le_of_not_lt control, other.1, other.2.1,
        by simp [escapeChar, other, control]⟩)

theorem escapeChar_text (c : Char) : CharText (escapeChar c) c := by
  rcases escapeChar_cases c with
    ⟨l, known, text⟩ | ⟨control, text⟩ | ⟨visible, quote, backslash, text⟩
  · rw [text]
    exact .letter known
  · obtain ⟨a, b, d, e, digits, number⟩ := hexDigits_number (n := c.toNat) (by omega)
    have coded : CharText ['\\', 'u', a, b, d, e] (Char.ofNat c.toNat) := .code number (by omega)
    rw [Char.ofNat_toNat] at coded
    rw [text, digits]
    exact coded
  · rw [text]
    exact .plain visible quote backslash

theorem escape_text (s : List Char) : StringText (escape s) s := by
  induction s with
  | nil => exact .nil
  | cons c rest ih =>
    rw [escape, List.flatMap_cons]
    exact .cons (escapeChar_text c) ih

/- Numbers. -/

theorem toDigits_head {n : Nat} (positive : 0 < n) : (Nat.toDigits 10 n).head? ≠ some '0' := by
  induction n using Nat.strongRecOn with
  | ind n ih =>
    by_cases small : n < 10
    · have other : n ≠ 0 := by omega
      simpa [Nat.toDigits_of_lt_base small, Nat.digitChar_eq_zero] using other
    · have first := ih (n / 10) (by omega) (by omega)
      rw [Nat.toDigits_of_base_le (by decide) (by omega),
        List.head?_append_of_ne_nil _ Nat.toDigits_ne_nil]
      exact first

theorem toDigits_text (n : Nat) : IntegerText (Nat.toDigits 10 n) := by
  cases n with
  | zero => exact .inl (Nat.toDigits_zero 10)
  | succ n =>
    have digit (c : Char) (member : c ∈ Nat.toDigits 10 (n + 1)) : c.isDigit = true :=
      Nat.isDigit_of_mem_toDigits (by decide) (by decide) member
    exact .inr ⟨⟨Nat.toDigits_ne_nil, digit⟩, toDigits_head (Nat.succ_pos n)⟩

theorem toDigits_number (n : Nat) : NumberText (Nat.toDigits 10 n) :=
  ⟨[], Nat.toDigits 10 n, [], [], by simp, .inl rfl, toDigits_text n, .inl rfl, .inl rfl⟩

/- Values. -/

theorem blank_nil : Blank [] := by simp [Blank]

theorem items_written {items : List Json} (some : items ≠ [])
    (each : ∀ v ∈ items, Written (.value v.tree) v.render.toList) :
    Written (.items (items.map tree)) (itemChars items) := by
  induction items with
  | nil => exact absurd rfl some
  | cons v rest ih =>
    have here := each v List.mem_cons_self
    cases rest with
    | nil =>
      have last := Written.lastItem blank_nil here blank_nil
      rw [itemChars_single]
      simpa using last
    | cons w rest =>
      have others := ih (by simp) fun u member => each u (List.mem_cons_of_mem v member)
      rw [itemChars_cons]
      exact .item blank_nil here blank_nil others

theorem members_written {members : List (String × Json)} (some : members ≠ [])
    (each : ∀ m ∈ members, Written (.value m.2.tree) m.2.render.toList) :
    Written (.members (members.map fun m => (m.1, m.2.tree))) (memberChars members) := by
  induction members with
  | nil => exact absurd rfl some
  | cons m rest ih =>
    obtain ⟨k, v⟩ := m
    have here : Written (.value v.tree) v.render.toList := each (k, v) List.mem_cons_self
    have key := escape_text k.toList
    cases rest with
    | nil =>
      have last := Written.lastMember blank_nil key blank_nil blank_nil here blank_nil
      rw [memberChars_single]
      simpa using last
    | cons n rest =>
      have others := ih (by simp) fun u member => each u (List.mem_cons_of_mem _ member)
      have more := Written.member blank_nil key blank_nil blank_nil here blank_nil others
      rw [memberChars_cons]
      simpa using more

/-- The compact text is one way to write the value. -/
theorem Natural.written {v : Json} (natural : v.Natural) :
    Written (.value v.tree) v.render.toList := by
  induction natural with
  | null =>
    rw [render_null]
    exact .null
  | bool b =>
    rw [render_bool]
    cases b with
    | true => exact .yes
    | false => exact .no
  | nat n =>
    rw [tree_nat, render_nat]
    exact .number (toDigits_number n)
  | str s =>
    have text := Written.text (escape_text s.toList)
    rw [tree_str, render_str]
    simpa using text
  | @arr items _ ih =>
    rw [tree_arr, render_arr]
    cases items with
    | nil => exact .emptyList blank_nil
    | cons v rest => exact .list (items_written (by simp) ih)
  | @obj members _ ih =>
    rw [tree_obj, render_obj]
    cases members with
    | nil => exact .emptyObject blank_nil
    | cons m rest => exact .object (members_written (by simp) ih)

/- Control characters are escaped. -/

/-- None of the characters is a control character. -/
def Visible (s : List Char) : Prop :=
  ∀ c ∈ s, 32 ≤ c.toNat

theorem visible_nil : Visible [] := by simp [Visible]

theorem visible_cons {c : Char} {s : List Char} : Visible (c :: s) ↔ 32 ≤ c.toNat ∧ Visible s := by
  simp [Visible]

theorem visible_append {s t : List Char} : Visible (s ++ t) ↔ Visible s ∧ Visible t := by
  simp [Visible, or_imp, forall_and]

theorem visible_of_digits {s : List Char} (all : ∀ c ∈ s, c.isDigit = true) : Visible s := by
  intro c member
  have digit := all c member
  simp only [Char.isDigit, Bool.and_eq_true, decide_eq_true_eq] at digit
  have low : (48 : UInt32).toNat ≤ c.val.toNat := UInt32.le_iff_toNat_le.mp digit.1
  exact Nat.le_trans (by decide) low

theorem escapeChar_visible (c : Char) : Visible (escapeChar c) := by
  rcases escapeChar_cases c with ⟨l, known, text⟩ | ⟨-, text⟩ | ⟨visible, -, -, text⟩
  · have letters : ∀ e ∈ escapes, 32 ≤ e.1.toNat := by decide
    rw [text, visible_cons, visible_cons]
    exact ⟨by decide, letters _ known, visible_nil⟩
  · have digit : ∀ i : Fin 16, 32 ≤ (Nat.digitChar i).toNat := by decide
    have all (n : Nat) : 32 ≤ (Nat.digitChar (n % 16)).toNat :=
      digit ⟨n % 16, Nat.mod_lt n (by decide)⟩
    rw [text]
    simp [Visible, hexDigits, all]
  · rw [text, visible_cons]
    exact ⟨visible, visible_nil⟩

theorem escape_visible (s : List Char) : Visible (escape s) := by
  intro c member
  obtain ⟨d, -, here⟩ := List.mem_flatMap.mp member
  exact escapeChar_visible d c here

theorem items_visible {items : List Json} (each : ∀ v ∈ items, Visible v.render.toList) :
    Visible (itemChars items) := by
  induction items with
  | nil => exact visible_nil
  | cons v rest ih =>
    have here := each v List.mem_cons_self
    cases rest with
    | nil => rwa [itemChars_single]
    | cons w rest =>
      have others := ih fun u member => each u (List.mem_cons_of_mem v member)
      rw [itemChars_cons, visible_append, visible_cons]
      exact ⟨here, by decide, others⟩

theorem members_visible {members : List (String × Json)}
    (each : ∀ m ∈ members, Visible m.2.render.toList) : Visible (memberChars members) := by
  induction members with
  | nil => exact visible_nil
  | cons m rest ih =>
    obtain ⟨k, v⟩ := m
    have here : Visible v.render.toList := each (k, v) List.mem_cons_self
    have key := escape_visible k.toList
    cases rest with
    | nil =>
      simp only [memberChars_single, visible_cons, visible_append]
      exact ⟨by decide, key, by decide, by decide, here⟩
    | cons n rest =>
      have others := ih fun u member => each u (List.mem_cons_of_mem _ member)
      simp only [memberChars_cons, visible_cons, visible_append]
      exact ⟨by decide, key, by decide, by decide, here, by decide, others⟩

theorem Natural.visible {v : Json} (natural : v.Natural) : Visible v.render.toList := by
  induction natural with
  | null =>
    simp [render_null, Visible]
  | bool b =>
    cases b <;> simp [render_bool, Visible]
  | nat n =>
    rw [render_nat]
    exact visible_of_digits fun c => Nat.isDigit_of_mem_toDigits (by decide) (by decide)
  | str s =>
    rw [render_str, visible_cons, visible_append, visible_cons]
    exact ⟨by decide, escape_visible s.toList, by decide, visible_nil⟩
  | arr _ ih =>
    rw [render_arr, visible_cons, visible_append, visible_cons]
    exact ⟨by decide, items_visible ih, by decide, visible_nil⟩
  | obj _ ih =>
    rw [render_obj, visible_cons, visible_append, visible_cons]
    exact ⟨by decide, members_visible ih, by decide, visible_nil⟩

end BranchCount.Json
