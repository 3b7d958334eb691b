import Udhar.Dart
import Udhar.Firestore
import Udhar.Lib.Split

/-! # The card tiles of the home page

`TransactionList` reads the documents of `Cards` into records and shows a tile
for each of them, with the card number masked in its title. What throws is
`none`: a field of the wrong type, an index out of range.
-/

namespace Udhar.CardTiles

open Lib Dart Lib.Split

/-! ## The widgets -/

/-- `cardData[key] ?? 'N/A'`, assigned to a `String`. -/
def fieldOr (cardData : Fields) (key : String) : Option String :=
  match cardData key with
  | none | some .null => some "N/A"
  | some (.string s) => some s
  | some (.bool _) | some (.number _) => none

structure CreditCard where
  number : String
  expiryDate : String
  cvvCode : String
  cardHolderName : String
  balance : String
  dueDate : String
  deriving DecidableEq

def creditCard (cardData : Fields) : Option CreditCard := do
  let number ← fieldOr cardData "cardNumber"
  let expiryDate ← fieldOr cardData "expiryDate"
  let cvvCode ← fieldOr cardData "cvvCode"
  let cardHolderName ← fieldOr cardData "cardHolderName"
  let balance ← fieldOr cardData "balance"
  let dueDate ← fieldOr cardData "dueDate"
  some { number, expiryDate, cvvCode, cardHolderName, balance, dueDate }

/-- `split(' ')`. -/
def parts (creditCardNumber : String) : List String :=
  (creditCardNumber.toList.splitOn ' ').map String.ofList

def obscureCreditCardNumber (creditCardNumber : String) : Option String :=
  if creditCardNumber.isEmpty then some ""
  else do
    let t ← (parts creditCardNumber)[3]?
    let s ← (parts creditCardNumber)[0]?
    some (s ++ " **** **** " ++ t)

/-- `s[0]`, a single code unit: of a character beyond the basic plane only the
    first half. -/
def firstUnit (s : String) : Option ℕ :=
  s.toList.head?.map fun c =>
    if c.toNat < 0x10000 then c.toNat else 0xD800 + (c.toNat - 0x10000) / 0x400

structure Tile where
  leading : ℕ
  title : String
  subtitle : String
  trailing : String
  deriving DecidableEq

def transactionTile (company date amount : String) : Option Tile := do
  let no ← obscureCreditCardNumber company
  let leading ← firstUnit company
  some { leading, title := no, subtitle := "Due Date: " ++ date, trailing := "₹ " ++ amount }

/-- What the stream of `Cards` delivers. -/
inductive Snapshot where
  | waiting
  | hasError (error : String)
  | noData
  | docs (cards : List Fields)

inductive View where
  | progressIndicator
  | text (message : String)
  | tiles (tiles : List Tile)
  deriving DecidableEq

/-- The builder of `TransactionList`. A `PageView` builds a tile once it comes into
    view; this one has all of them in view. -/
def transactionList : Snapshot → Option View
  | .waiting => some .progressIndicator
  | .hasError error => some (.text ("Error: " ++ error))
  | .noData => some (.text "No cards available")
  | .docs cards => do
      let creditCards ← cards.mapM creditCard
      let tiles ← creditCards.mapM fun card =>
        transactionTile card.number card.dueDate card.balance
      some (.tiles tiles)

/-! ## Masking

What a title reveals of a number is a matter of positions: the title is put together
once more from characters that carry the position which they have in the number. -/

/-- The groups of `parts`, with the positions of their characters. -/
def placedParts (creditCardNumber : String) : List (List (Char × ℕ)) :=
  creditCardNumber.toList.zipIdx.splitOnP fun x => decide (x.1 = ' ')

/-- Characters of the number. -/
def copied (group : List (Char × ℕ)) : List (Char × Option ℕ) := group.map (Prod.map id some)

/-- Characters of the mask. -/
def added (s : String) : List (Char × Option ℕ) := s.toList.map (·, none)

/-- `obscureCreditCardNumber` on characters that carry their positions. -/
def placedTitle (creditCardNumber : String) : Option (List (Char × Option ℕ)) :=
  if creditCardNumber.isEmpty then some []
  else do
    let t ← (placedParts creditCardNumber)[3]?
    let s ← (placedParts creditCardNumber)[0]?
    some (copied s ++ added " **** **** " ++ copied t)

/-- The positions in the number that a title shows. -/
def positions (title : List (Char × Option ℕ)) : List ℕ := title.filterMap Prod.snd

/-- One of the first four or of the last four characters of a number. -/
def AtEnd (number : String) (i : ℕ) : Prop := i < 4 ∨ number.toList.length ≤ i + 4

/-- The title shows no character of the number but the first four and the last four. -/
def Masked (number title : String) : Prop :=
  ∃ placed, placedTitle number = some placed ∧ title = String.ofList (placed.map Prod.fst) ∧
    ∀ i ∈ positions placed, AtEnd number i

/-- A group of `len` characters from `start` on is empty, ends within the first four
    characters, or has all that is not among these within the last four. -/
def fits (total start len : ℕ) : Bool :=
  len = 0 || start + len ≤ 4 || total ≤ max start 4 + 4

/-- The number has a fourth group, and the first and the fourth are at its ends. -/
def wellGrouped (number : String) : Bool :=
  match number.toList.splitOn ' ' with
  | first :: second :: third :: fourth :: _ =>
      fits number.toList.length 0 first.length &&
        fits number.toList.length (first.length + second.length + third.length + 3) fourth.length
  | _ => false

theorem fits_iff {number : String} {start len : ℕ} :
    fits number.toList.length start len = true ↔ ∀ i ∈ List.range' start len, AtEnd number i := by
  simp only [fits, AtEnd, Bool.or_eq_true, decide_eq_true_eq, List.mem_range'_1]
  constructor
  · rintro short i inside
    omega
  · intro atEnd
    by_cases short : len = 0 ∨ start + len ≤ 4
    · exact .inl short
    · -- The first position of the group that is not among the first four.
      have := atEnd (max start 4) (by omega)
      omega

@[simp] theorem positions_append (title title' : List (Char × Option ℕ)) :
    positions (title ++ title') = positions title ++ positions title' :=
  List.filterMap_append

@[simp] theorem positions_added (s : String) : positions (added s) = [] := by
  simp [positions, added, List.filterMap_map]

@[simp] theorem positions_copied (group : List Char) (n : ℕ) :
    positions (copied (group.zipIdx n)) = List.range' n group.length := by
  have kept : Prod.snd ∘ Prod.map id some = some ∘ (Prod.snd : Char × ℕ → ℕ) := rfl
  rw [positions, copied, List.filterMap_map, kept, List.filterMap_eq_map, List.zipIdx_map_snd]

theorem placedParts_eq (number : String) :
    placedParts number = locate 0 (number.toList.splitOn ' ') :=
  splitOnP_zipIdx 0 number.toList

/-- Without their positions the groups are those that the code splits off. -/
theorem parts_eq (number : String) :
    parts number = (placedParts number).map fun group => String.ofList (group.map Prod.fst) := by
  rw [placedParts_eq, parts]
  conv_lhs => rw [← locate_fst 0 (number.toList.splitOn ' '), List.map_map]
  rfl

/-- Without its positions the title is the one that the code shows. -/
theorem placedTitle_fst (number : String) :
    obscureCreditCardNumber number =
      (placedTitle number).map fun placed => String.ofList (placed.map Prod.fst) := by
  have back (group : List (Char × ℕ)) : (copied group).map Prod.fst = group.map Prod.fst := by
    rw [copied, List.map_map]
    rfl
  have mask (s : String) : (added s).map Prod.fst = s.toList := by
    rw [added, List.map_map]
    exact List.map_id _
  unfold obscureCreditCardNumber placedTitle
  split
  · rfl
  · simp only [parts_eq, List.getElem?_map]
    cases (placedParts number)[3]? with
    | none => rfl
    | some t =>
        cases (placedParts number)[0]? with
        | none => rfl
        | some s =>
            simp only [Option.map_some, Option.bind_eq_bind, Option.bind_some, List.map_append,
              String.ofList_append, back, mask, String.ofList_toList]

/-- Of a number that is not empty the first and the fourth group are shown. -/
theorem placedTitle_of_four {number : String} {first second third fourth : List Char}
    {rest : List (List Char)} (nonempty : number ≠ "")
    (groups : number.toList.splitOn ' ' = first :: second :: third :: fourth :: rest) :
    placedTitle number = some (copied (first.zipIdx 0) ++ added " **** **** " ++
      copied (fourth.zipIdx (first.length + second.length + third.length + 3))) := by
  have start : 0 + first.length + 1 + second.length + 1 + third.length + 1 =
      first.length + second.length + third.length + 3 := by
    omega
  rw [placedTitle, if_neg (by simpa using nonempty), placedParts_eq, groups]
  simp only [locate, start]
  rfl

theorem four_of_obscured {number title : String} (nonempty : number ≠ "")
    (obscured : obscureCreditCardNumber number = some title) :
    ∃ first second third fourth rest,
      number.toList.splitOn ' ' = first :: second :: third :: fourth :: rest := by
  rw [obscureCreditCardNumber, if_neg (by simpa using nonempty)] at obscured
  obtain ⟨last, found, -⟩ := Option.bind_eq_some_iff.mp obscured
  rw [parts] at found
  match groups : number.toList.splitOn ' ' with
  | first :: second :: third :: fourth :: rest => exact ⟨first, second, third, fourth, rest, rfl⟩
  | [] | [_] | [_, _] | [_, _, _] => simp [groups] at found

theorem four_of_wellGrouped {number : String} (grouped : wellGrouped number = true) :
    ∃ first second third fourth rest,
      number.toList.splitOn ' ' = first :: second :: third :: fourth :: rest := by
  unfold wellGrouped at grouped
  split at grouped
  · exact ⟨_, _, _, _, _, ‹_›⟩
  · exact nomatch grouped

/-- A title masks its number if the groups that it shows are at the ends. -/
theorem masked_iff {number title : String} (nonempty : number ≠ "")
    (obscured : obscureCreditCardNumber number = some title) :
    Masked number title ↔ wellGrouped number = true := by
  obtain ⟨first, second, third, fourth, rest, groups⟩ := four_of_obscured nonempty obscured
  have placed := placedTitle_of_four nonempty groups
  have shown := placedTitle_fst number
  rw [obscured, placed, Option.map_some, Option.some.injEq] at shown
  simp only [Masked, placed, Option.some.injEq, exists_eq_left', shown, true_and, wellGrouped,
    groups, Bool.and_eq_true, fits_iff, positions_append, positions_added, positions_copied,
    List.append_nil, List.forall_mem_append]

/-- Any number written in four short groups is well grouped. -/
theorem wellGrouped_of_four {first second third fourth : String}
    (clean : ∀ group ∈ [first, second, third, fourth], ' ' ∉ group.toList)
    (short : first.toList.length ≤ 4) (short' : fourth.toList.length ≤ 4) :
    wellGrouped (first ++ " " ++ second ++ " " ++ third ++ " " ++ fourth) = true := by
  have written : (first ++ " " ++ second ++ " " ++ third ++ " " ++ fourth).toList =
      [' '].intercalate ([first, second, third, fourth].map String.toList) := by
    simp
  have groups := List.splitOn_intercalate ' ' (List.forall_mem_map.mpr clean) (by simp)
  rw [← written] at groups
  have total := congrArg List.length written
  simp only [List.map_cons, List.map_nil] at groups
  simp only [wellGrouped, groups, fits, Bool.and_eq_true, Bool.or_eq_true, decide_eq_true_eq]
  simp at total ⊢
  omega

example : wellGrouped "4111 1111 1111 1111" = true ∧ wellGrouped "4111 1111 1111 111 " = true ∧
    wellGrouped "1 2 3 4 5" = true ∧ wellGrouped "6304 1234 5678 9012 345" = false := by
  decide +kernel

/-! ## A single card -/

theorem fieldOr_eq_some_iff {cardData : Fields} {key s : String} :
    fieldOr cardData key = some s ↔ cardData key = some (.string s) ∨
      (cardData key = none ∨ cardData key = some .null) ∧ s = "N/A" := by
  unfold fieldOr
  grind

theorem creditCard_eq_some_iff {cardData : Fields} {card : CreditCard} :
    creditCard cardData = some card ↔
      fieldOr cardData "cardNumber" = some card.number ∧
      fieldOr cardData "expiryDate" = some card.expiryDate ∧
      fieldOr cardData "cvvCode" = some card.cvvCode ∧
      fieldOr cardData "cardHolderName" = some card.cardHolderName ∧
      fieldOr cardData "balance" = some card.balance ∧
      fieldOr cardData "dueDate" = some card.dueDate := by
  simp only [creditCard, Option.bind_eq_bind, Option.bind_eq_some_iff, Option.some.injEq]
  constructor
  · rintro ⟨_, number, _, expiryDate, _, cvvCode, _, holder, _, balance, _, dueDate, rfl⟩
    exact ⟨number, expiryDate, cvvCode, holder, balance, dueDate⟩
  · rintro ⟨number, expiryDate, cvvCode, holder, balance, dueDate⟩
    exact ⟨_, number, _, expiryDate, _, cvvCode, _, holder, _, balance, _, dueDate, rfl⟩

theorem firstUnit_eq_none_iff {s : String} : firstUnit s = none ↔ s = "" := by
  simp [firstUnit]

/-- A tile is built for a number that is not empty and can be masked. -/
theorem transactionTile_titled {company date amount title : String} :
    (∃ tile, transactionTile company date amount = some tile ∧ tile.title = title) ↔
      company ≠ "" ∧ obscureCreditCardNumber company = some title := by
  simp only [transactionTile, Option.bind_eq_bind, Option.bind_eq_some_iff, Option.some.injEq]
  constructor
  · rintro ⟨_, ⟨no, masked, leading, first, rfl⟩, rfl⟩
    refine ⟨fun empty => ?_, masked⟩
    rw [firstUnit_eq_none_iff.mpr empty] at first
    exact nomatch first
  · rintro ⟨nonempty, masked⟩
    obtain ⟨leading, first⟩ := Option.ne_none_iff_exists'.mp
      (mt firstUnit_eq_none_iff.mp nonempty)
    exact ⟨_, ⟨title, masked, leading, first, rfl⟩, rfl⟩

/-- The tile that a document of `Cards` ends up as. -/
def tileOf (cardData : Fields) : Option Tile :=
  (creditCard cardData).bind fun card => transactionTile card.number card.dueDate card.balance

/-- A card that can be shown and masked: no field has a wrong type, and there is a
    number whose first and fourth group are at its ends. -/
structure WellStored (cardData : Fields) : Prop where
  readable : ∀ key ∈ ["expiryDate", "cvvCode", "cardHolderName", "balance", "dueDate"],
    ∃ s, fieldOr cardData key = some s
  number : ∃ number, cardData "cardNumber" = some (.string number) ∧ wellGrouped number = true

/-- The title of a card's tile masks its number. -/
def TitleMasked (cardData : Fields) (tile : Tile) : Prop :=
  ∀ number, cardData "cardNumber" = some (.string number) → Masked number tile.title

theorem tileOf_masked_iff (cardData : Fields) :
    (∃ tile, tileOf cardData = some tile ∧ TitleMasked cardData tile) ↔ WellStored cardData := by
  constructor
  · rintro ⟨tile, built, masked⟩
    obtain ⟨card, read, shown⟩ := Option.bind_eq_some_iff.mp built
    obtain ⟨number, expiryDate, cvvCode, holder, balance, dueDate⟩ :=
      creditCard_eq_some_iff.mp read
    obtain ⟨nonempty, obscured⟩ := transactionTile_titled.mp ⟨tile, shown, rfl⟩
    refine ⟨?_, card.number, ?_⟩
    · simp only [List.forall_mem_cons, expiryDate, cvvCode, holder, balance, dueDate]
      simp
    · rcases fieldOr_eq_some_iff.mp number with stored | ⟨-, fallback⟩
      · exact ⟨stored, (masked_iff nonempty obscured).mp (masked card.number stored)⟩
      · -- The fallback has a single group.
        have single : obscureCreditCardNumber "N/A" = none := by decide +kernel
        rw [fallback, single] at obscured
        exact nomatch obscured
  · rintro ⟨readable, number, stored, grouped⟩
    simp only [List.forall_mem_cons] at readable
    obtain ⟨⟨_, expiryDate⟩, ⟨_, cvvCode⟩, ⟨_, holder⟩, ⟨_, balance⟩, ⟨_, dueDate⟩, -⟩ := readable
    have read : creditCard cardData = some ⟨number, _, _, _, _, _⟩ := creditCard_eq_some_iff.mpr
      ⟨fieldOr_eq_some_iff.mpr (.inl stored), expiryDate, cvvCode, holder, balance, dueDate⟩
    have nonempty : number ≠ "" := by
      rintro rfl
      exact absurd grouped (by decide +kernel)
    obtain ⟨first, second, third, fourth, rest, groups⟩ := four_of_wellGrouped grouped
    have obscured := placedTitle_fst number
    rw [placedTitle_of_four nonempty groups, Option.map_some] at obscured
    obtain ⟨tile, shown, title⟩ := transactionTile_titled.mpr ⟨nonempty, obscured⟩
    refine ⟨tile, Option.bind_eq_some_iff.mpr ⟨_, read, shown⟩, fun number' stored' => ?_⟩
    obtain rfl : number = number' := by
      rw [stored] at stored'
      exact Value.string.inj (Option.some.inj stored')
    rw [title]
    exact (masked_iff nonempty obscured).mpr grouped

/-! ## The whole list -/

theorem transactionList_docs (cards : List Fields) :
    transactionList (.docs cards) = (cards.mapM tileOf).map .tiles := by
  have pieces := mapM_bind_mapM (f := creditCard)
    (g := fun card => transactionTile card.number card.dueDate card.balance) cards
  rw [show tileOf = fun cardData => (creditCard cardData).bind _ from rfl, ← pieces,
    Option.map_eq_bind, Option.bind_assoc]
  rfl

/-- The list of cards is shown, each under a masked number, exactly if every card
    in it can be. -/
theorem transactionList_masked_iff (cards : List Fields) :
    (∃ tiles, transactionList (.docs cards) = some (.tiles tiles) ∧
      List.Forall₂ TitleMasked cards tiles) ↔ ∀ cardData ∈ cards, WellStored cardData := by
  rw [transactionList_docs]
  simp only [Option.map_eq_some_iff, View.tiles.injEq, exists_eq_right, exists_mapM,
    tileOf_masked_iff]

/-- A card without number, one with an empty number, and one with nineteen digits. -/
theorem odd_cards_break_the_list :
    transactionList (.docs [Fields.ofList []]) = none ∧
    transactionList (.docs [Fields.ofList [("cardNumber", .string "")]]) = none ∧
    ∃ tile, transactionList
        (.docs [Fields.ofList [("cardNumber", .string "6304 1234 5678 9012 345")]]) =
          some (.tiles [tile]) ∧
      tile.title = "6304 **** **** 9012" ∧ ¬ Masked "6304 1234 5678 9012 345" tile.title := by
  have revealed : ¬ Masked "6304 1234 5678 9012 345" "6304 **** **** 9012" :=
    mt (masked_iff (by decide) (by decide +kernel)).mp (by decide +kernel)
  refine ⟨by decide +kernel, by decide +kernel,
    ⟨'6'.toNat, "6304 **** **** 9012", "Due Date: N/A", "₹ N/A"⟩, by decide +kernel, rfl, ?_⟩
  exact revealed

end Udhar.CardTiles
