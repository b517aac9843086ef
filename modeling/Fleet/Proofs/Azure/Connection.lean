import Fleet.Proofs.Azure.Account
import Fleet.Proofs.Text.Split

/-!
# `Fleet.Proofs.Azure.Connection`: connection strings, piece by piece

The value of an attribute is searched for in the whole text: the key may occur in a value or at the
end of another name, and then the search goes on behind it. `behindFirst?` looks at the pieces
instead, one after the other. It takes the same steps (`behindFirst?_eq_match`), since a key holds
no semicolon: what is skipped with an occurrence amid a piece begins no other piece. So the two
agree (`Attribute.map_behindKey?`), and the value is that of the first piece with the key
(`Attribute.value?_eq_findSome?`).

`connection_by_pieces` is the main theorem. It says besides what follows for connection strings
with the same pieces in another order, or with pieces of no attribute among them.
-/

set_option autoImplicit false

namespace Fleet.Azure

open Fleet.Text

/-! ### A key in a text -/

section

variable {key : List Char}

/-- What a text holds behind a key, in the first piece that begins with it. The first piece of a
text that does not begin one does not count. -/
def behindFirst? (key : List Char) (begins : Bool) (cs : List Char) : Option (List Char) :=
  (if begins then split ';' cs else (split ';' cs).tail).findSome? (dropPrefix? key)

/-- A key whose characters are all kept may be dropped before or after the text is cut off. -/
theorem dropPrefix?_takeWhile {p : Char → Bool} (hkey : ∀ c ∈ key, p c = true)
    (cs : List Char) :
    dropPrefix? key (cs.takeWhile p) = (dropPrefix? key cs).map (·.takeWhile p) := by
  induction key generalizing cs with
  | nil => rfl
  | cons k key ih =>
    cases cs with
    | nil => rfl
    | cons c cs =>
      rw [List.takeWhile_cons, dropPrefix?]
      by_cases hc : k = c
      · subst hc
        rw [if_pos rfl, if_pos (hkey k List.mem_cons_self), dropPrefix?, if_pos rfl]
        exact ih (fun c hc => hkey c (List.mem_cons_of_mem _ hc)) cs
      · rw [if_neg hc]
        split
        · rw [dropPrefix?, if_neg hc, Option.map_none]
        · rfl

/-- An empty text begins with no key. -/
theorem dropPrefix?_nil (hne : key ≠ []) : dropPrefix? key [] = none := by
  cases key with
  | nil => exact absurd rfl hne
  | cons k key => rfl

/-- One character on: the piece that a text begins has the key or not. -/
theorem behindFirst?_cons (hsep : ';' ∉ key) (begins : Bool) (c : Char) (cs : List Char) :
    behindFirst? key begins (c :: cs)
      = (if begins then (dropPrefix? key (c :: cs)).map (·.takeWhile (· ≠ ';')) else none).or
        (behindFirst? key (c = ';') cs) := by
  have hkey : ∀ k ∈ key, decide (k ≠ ';') = true := fun k hk =>
    decide_eq_true fun he => hsep (he ▸ hk)
  -- The pieces but for the first are those behind the next semicolon.
  have htail : (split ';' (c :: cs)).tail
      = if c = ';' then split ';' cs else (split ';' cs).tail := by
    rw [split]
    split
    · rfl
    · rw [split_eq_cons]
      rfl
  have hrest : ((split ';' (c :: cs)).tail).findSome? (dropPrefix? key)
      = behindFirst? key (c = ';') cs := by
    rw [htail, behindFirst?]
    simp only [decide_eq_true_eq]
  cases begins with
  | false => exact hrest
  | true =>
    rw [behindFirst?, if_pos rfl, if_pos rfl, split_eq_cons, List.findSome?_cons, hrest,
      dropPrefix?_takeWhile hkey]
    cases (dropPrefix? key (c :: cs)).map (·.takeWhile (· ≠ ';')) <;> rfl

/-- What holds no semicolon can be skipped amid a piece. -/
theorem behindFirst?_append (hsep : ';' ∉ key) {front : List Char} (hfront : ';' ∉ front)
    (cs : List Char) : behindFirst? key false (front ++ cs) = behindFirst? key false cs := by
  induction front with
  | nil => rfl
  | cons c front ih =>
    obtain ⟨hc, hfront⟩ := List.ne_and_not_mem_of_not_mem_cons hfront
    rw [List.cons_append, behindFirst?_cons hsep, if_neg Bool.false_ne_true, Option.none_or,
      decide_eq_false (Ne.symm hc), ih hfront]

/-- The first occurrence of the key begins a piece, or the search goes on behind it. -/
theorem behindFirst?_eq_match (hne : key ≠ []) (hsep : ';' ∉ key) (previous : Option Char)
    (cs : List Char) :
    behindFirst? key (previous.all (· = ';')) cs
      = match splitAround? key cs with
        | none => none
        | some (before, after) =>
          if (before.getLast?.or previous).all (· = ';') then some (after.takeWhile (· ≠ ';'))
          else behindFirst? key false after := by
  induction cs generalizing previous with
  | nil =>
    rw [splitAround?, dropPrefix?_nil hne]
    cases previous.all (· = ';')
    · rfl
    · exact List.findSome?_eq_none_iff.2 fun x hx => by
        rw [List.mem_singleton.1 hx, dropPrefix?_nil hne]
  | cons c cs ih =>
    rw [splitAround?]
    cases hkey : dropPrefix? key (c :: cs) with
    | none =>
      -- There is no key here, and the next character comes after this one.
      have hnext := ih (some c)
      rw [Option.all_some] at hnext
      rw [behindFirst?_cons hsep, hkey, Option.map_none, ite_self, Option.none_or, hnext]
      cases splitAround? key cs with
      | none => rfl
      | some x => simp [List.getLast?_cons]
    | some after =>
      dsimp only
      rw [List.getLast?_nil, Option.none_or]
      cases previous.all (· = ';') with
      | true =>
        rw [behindFirst?_cons hsep, hkey]
        rfl
      | false =>
        rw [dropPrefix?_eq_some_iff.1 hkey, behindFirst?_append hsep hsep]
        rfl

end

/-! ### Attributes -/

namespace Attribute

/-- No key holds the semicolon that ends a piece, so an occurrence never reaches over two pieces. -/
theorem semicolon_notMem_key (a : Attribute) : ';' ∉ a.key.toList := by
  cases a <;> decide

/-- The value that a piece of a connection string gives an attribute. -/
def inPiece? (a : Attribute) (piece : String) : Option String :=
  (dropPrefix? a.key.toList piece.toList).map String.ofList

/-- A piece gives an attribute a value exactly if it is the key with the value behind it. -/
theorem inPiece?_eq_some_iff {a : Attribute} {piece v : String} :
    a.inPiece? piece = some v ↔ piece = a.key ++ v := by
  rw [inPiece?, Option.map_eq_some_iff]
  simp only [dropPrefix?_eq_some_iff]
  constructor
  · rintro ⟨rest, hrest, rfl⟩
    rw [← String.toList_inj, hrest, String.toList_append, String.toList_ofList]
  · rintro rfl
    exact ⟨v.toList, String.toList_append, String.ofList_toList⟩

/-- Whether a piece gives a value to some attribute. -/
def among (piece : String) : Bool :=
  [accountName, accountKey, blobEndpoint, protocol, endpointSuffix].any
    fun a => (a.inPiece? piece).isSome

/-- A piece that gives some attribute a value is not one of the others, which may be left out. -/
theorem among_of_inPiece? {a : Attribute} {piece v : String} (h : a.inPiece? piece = some v) :
    among piece = true :=
  List.any_eq_true.2 ⟨a, by cases a <;> decide, by rw [h]; rfl⟩

/-- The search for a key, unrolled once: it ends at an occurrence that begins a piece and goes on
behind any other. -/
theorem behindKey?_eq_match (a : Attribute) (previous : Option Char) (cs : List Char) :
    a.behindKey? previous cs
      = match splitAround? a.key.toList cs with
        | none => none
        | some (before, after) =>
          if (before.getLast?.or previous).all (· = ';') then some after
          else a.behindKey? a.key.toList.getLast? after := by
  rw [behindKey?]
  cases h : splitAround? a.key.toList cs <;> rfl

/-- Pieces that give no value to any attribute can be left out. -/
theorem filterMap_filter_among (a : Attribute) (pieces : List String) :
    (pieces.filter among).filterMap a.inPiece? = pieces.filterMap a.inPiece? := by
  rw [List.filterMap_filter]
  congr 1
  funext piece
  cases h : a.inPiece? piece with
  | none => exact ite_self _
  | some v => exact if_pos (among_of_inPiece? h)

/-- The search finds what the first piece with the key holds behind it. -/
theorem map_behindKey? (a : Attribute) (previous : Option Char) (cs : List Char) :
    (a.behindKey? previous cs).map (·.takeWhile (· ≠ ';'))
      = behindFirst? a.key.toList (previous.all (· = ';')) cs := by
  have hkey : a.key.toList.getLast?.all (· = ';') = false := by
    cases a <;> decide
  induction previous, cs using behindKey?.induct a with
  | case1 previous cs hnone =>
    rw [behindKey?_eq_match, behindFirst?_eq_match a.key_ne_nil a.semicolon_notMem_key, hnone]
    rfl
  | case2 previous cs before after hfound hbegins =>
    rw [behindKey?_eq_match, behindFirst?_eq_match a.key_ne_nil a.semicolon_notMem_key, hfound]
    dsimp only
    rw [if_pos hbegins, if_pos hbegins]
    rfl
  | case3 previous cs before after hfound hamid ih =>
    rw [behindKey?_eq_match, behindFirst?_eq_match a.key_ne_nil a.semicolon_notMem_key, hfound]
    dsimp only
    rw [if_neg hamid, if_neg hamid, ih, hkey]

/-- The value of an attribute is the one that the first piece with its key gives it. -/
theorem value?_eq_findSome? (a : Attribute) (connection : String) :
    a.value? connection = (splitText ';' connection).findSome? a.inPiece? := by
  have hsearch := a.map_behindKey? none connection.toList
  rw [Option.all_none, behindFirst?, if_pos rfl] at hsearch
  rw [value?, splitText, List.findSome?_map]
  have hpiece :
      a.inPiece? ∘ String.ofList = Option.map String.ofList ∘ dropPrefix? a.key.toList := by
    funext piece
    rw [Function.comp_apply, inPiece?, String.toList_ofList]
    rfl
  rw [hpiece, ← List.map_findSome?, ← hsearch, Option.map_map]
  rfl

variable {a : Attribute} {connection connection' : String}

/-- Pieces of other attributes, or of none, make no difference. -/
theorem value?_congr
    (h : (splitText ';' connection').filterMap a.inPiece?
      = (splitText ';' connection).filterMap a.inPiece?) :
    a.value? connection' = a.value? connection := by
  rw [value?_eq_findSome?, value?_eq_findSome?, ← List.head?_filterMap, h, List.head?_filterMap]

end Attribute

namespace Account

/-- An account is settled by the values of the attributes. -/
theorem ofConnection_congr {connection connection' : String}
    (h : ∀ a : Attribute, a.value? connection' = a.value? connection) :
    ofConnection connection' = ofConnection connection := by
  simp only [ofConnection, h]

end Account

/-- A connection string is read piece by piece. The value of an attribute is what follows its key
in the first piece that begins with it, wherever else the key occurs. So the order of pieces does
not matter if none gives a value to an attribute that has one, and pieces that give none do not
matter at all, neither to the account nor to the error. An account has an endpoint of the web whose
path ends in a slash, with nothing behind it. -/
theorem connection_by_pieces :
    (∀ (a : Attribute) (connection : String),
      a.value? connection = (splitText ';' connection).findSome? a.inPiece? ∧
      ∀ piece v, a.inPiece? piece = some v ↔ piece = a.key ++ v) ∧
    (∀ connection connection' : String,
      (splitText ';' connection').Perm (splitText ';' connection) →
      (∀ a : Attribute, ((splitText ';' connection).filterMap a.inPiece?).length ≤ 1) →
      Account.ofConnection connection' = Account.ofConnection connection) ∧
    (∀ connection connection' : String,
      (splitText ';' connection').filter Attribute.among
        = (splitText ';' connection).filter Attribute.among →
      Account.ofConnection connection' = Account.ofConnection connection) ∧
    ∀ (connection : String) (account : Account), Account.ofConnection connection = .ok account →
      IsServiceAddress account.endpoint := by
  refine ⟨fun a connection => ⟨a.value?_eq_findSome? connection, fun piece v =>
    Attribute.inPiece?_eq_some_iff⟩, fun connection connection' hperm honce => ?_,
    fun connection connection' hsame => ?_, fun connection account h =>
      Account.Built.endpoint (.inr ⟨connection, h⟩)⟩
  · refine Account.ofConnection_congr fun a => Attribute.value?_congr ?_
    have hvalues := hperm.filterMap a.inPiece?
    have hone := honce a
    generalize (splitText ';' connection).filterMap a.inPiece? = values at hvalues hone
    -- There is only one order of at most one value.
    match values, hone with
    | [], _ => exact List.perm_nil.1 hvalues
    | [v], _ => exact List.perm_singleton.1 hvalues
  · refine Account.ofConnection_congr fun a => Attribute.value?_congr ?_
    rw [← a.filterMap_filter_among, hsame, a.filterMap_filter_among]

/-- A connection string with the name of an attribute inside another name. -/
def sampleConnection : String := "NotAccountName=other;AccountName=acct;AccountKey=Zm9vYmFy"

/-- Pieces in another order, and with others among them, give the same account: neither a longer
name that ends with a key nor a value that holds one misleads the search. -/
theorem connection_by_pieces_sample :
    Account.ofConnection "AccountKey=Zm9vYmFy;NotAccountName=other;AccountName=acct"
      = Account.ofConnection sampleConnection ∧
    Account.ofConnection "AccountName=acct;Spam=AccountKey=;AccountKey=Zm9vYmFy"
      = Account.ofConnection sampleConnection ∧
    Attribute.accountName.value? sampleConnection = some "acct" ∧
    IsServiceAddress Account.sample.endpoint := by
  obtain ⟨hvalue, horder, hadded, hendpoint⟩ := connection_by_pieces
  have hread : Account.ofConnection sampleConnection = .ok Account.sample := by
    simp only [Account.ofConnection, (hvalue _ _).1]
    decide +kernel
  refine ⟨horder _ _ (by decide +kernel) fun a => ?_, hadded _ _ (by decide +kernel), ?_,
    hendpoint _ _ hread⟩
  · cases a <;> decide +kernel
  · rw [(hvalue _ _).1]
    decide +kernel

end Fleet.Azure
