import Bundler.Proofs.Script.Export
import Bundler.Proofs.Script.Require
import Bundler.Transform.Basic

/-!
What the transforms that quote a file make of it: a module of one statement, which holds the content in one literal and
requires nothing.
-/

namespace Bundler

open Script Text.Quoted

namespace Text

variable {text : String}

theorem toList_stripByteOrderMark (text : String) : (stripByteOrderMark text).toList =
    if text.toList.head? = some byteOrderMark then text.toList.tail else text.toList := by
  unfold stripByteOrderMark
  cases chars : text.toList with
  | nil => simpa using chars
  | cons c rest => by_cases mark : c = byteOrderMark <;> simp [mark, chars]

theorem stripByteOrderMark_of_head (other : text.toList.head? ≠ some byteOrderMark) : stripByteOrderMark text = text := by
  have same := toList_stripByteOrderMark text
  rw [if_neg other] at same
  exact String.toList_inj.mp same

end Text

/-- A script without calls of `require` is rewritten as it stands, and requires nothing. -/
theorem rewrite_of_sites_eq_nil {source : String} {parsed : Parsed} (unmarked : source.toList.head? ≠ some Text.byteOrderMark)
    (parses : parse source = .ok parsed) (none : parsed.root.sites = []) (extension : String) (id : ModuleId) :
    rewrite extension id source = ⟨.ok ⟨(Parsed.mk .none parsed.root parsed.comments).print, []⟩, []⟩ := by
  have fine : parsed.root.sites.map Node.demand = [].map .ok := by rw [none]; rfl
  simp only [rewrite, Text.stripByteOrderMark_of_head unmarked, parses]
  rw [rewriteParsed_fine fine, Node.map_linked_of_sites_eq_nil _ none]
  rfl

namespace Transform

/-- Reading a quoted text as a literal consumes the text as it is quoted, leaves whatever follows, and gives the text and
no other. So a module of any content is one statement, which stores the content, or what `JSON.parse` makes of it
without a byte order mark, and it requires nothing. -/
theorem run_quotes (text : String) :
    let bare : List Char := if text.toList.head? = some Text.byteOrderMark then text.toList.tail else text.toList
    (∀ rest, Text.Literal.read ((quote text).toList ++ rest) = some (Text.Literal.units text.toList, rest)) ∧
    (∀ other : String, Text.Literal.units other.toList = Text.Literal.units text.toList ↔ other = text) ∧
    ∀ path extension id,
      (∃ written, Transform.text.run text path = .ok written ∧
        Script.parse written = .ok ⟨none, exporting (literalAt 17 text), {}⟩ ∧
        Text.Literal.read (written.toList.drop 17) = some (Text.Literal.units text.toList, [';']) ∧
        ∃ rewritten, (rewrite extension id written).result = .ok rewritten ∧ rewritten.requires = []) ∧
      ∃ written, Transform.json.run text path = .ok written ∧
        Script.parse written = .ok ⟨none, exporting (parsing (.ofList bare)), {}⟩ ∧
        Text.Literal.read (written.toList.drop 28) = some (Text.Literal.units bare, [')', ';']) ∧
        ∃ rewritten, (rewrite extension id written).result = .ok rewritten ∧ rewritten.requires = [] := by
  intro bare
  have unmarked : 'm' ≠ Text.byteOrderMark := by decide
  have unique (other : String) : Text.Literal.units other.toList = Text.Literal.units text.toList ↔ other = text :=
    ⟨fun same => String.toList_inj.mp (Text.Literal.units_injective same), fun same => same ▸ rfl⟩
  refine ⟨Text.Literal.read_quote text, unique, fun path extension id => ⟨?_, ?_⟩⟩
  · have parses := parse_exporting_quote text
    refine ⟨_, rfl, parses, ?_, _, congrArg Rewriting.result (rewrite_of_sites_eq_nil ?_ parses rfl extension id), rfl⟩
    · rw [← Text.Literal.read_quote text [';']]
      simp
    · simpa using unmarked
  · have stripped : Text.stripByteOrderMark text = .ofList bare := by
      rw [← String.ofList_toList (s := Text.stripByteOrderMark text), Text.toList_stripByteOrderMark]
    have parses := parse_exporting_parse (.ofList bare)
    rw [← stripped] at parses ⊢
    refine ⟨_, rfl, parses, ?_, _, congrArg Rewriting.result (rewrite_of_sites_eq_nil ?_ parses rfl extension id), rfl⟩
    · have value := Text.Literal.read_quote (Text.stripByteOrderMark text) [')', ';']
      rw [Text.toList_stripByteOrderMark] at value
      rw [← value]
      simp
    · simpa using unmarked

end Transform

end Bundler
