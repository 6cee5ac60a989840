import PicAssembly.Label
import PicAssembly.Literal

/-!
# Assembly lines

The lines of a listing by their meaning, and the text of each.
-/

namespace PicAssembly

/-- The instructions that operations are made of. -/
inductive Mnemonic where
  | addwf
  | bcf
  | bsf
  | btfss
  | call
  | decf
  | decfsz
  | goto
  | incf
  | movf
  | movlw
  | movwf
  | option
  | retlw
  | subwf
  | tris
deriving DecidableEq, Repr

namespace Mnemonic

/-- The spelling of a mnemonic. -/
def text : Mnemonic → String
  | addwf => "addwf"
  | bcf => "bcf"
  | bsf => "bsf"
  | btfss => "btfss"
  | call => "call"
  | decf => "decf"
  | decfsz => "decfsz"
  | goto => "goto"
  | incf => "incf"
  | movf => "movf"
  | movlw => "movlw"
  | movwf => "movwf"
  | option => "option"
  | retlw => "retlw"
  | subwf => "subwf"
  | tris => "tris"

end Mnemonic

/-- A line of a program. -/
inductive Line where
  | blank
  | heading (label : String)
  | directive (text : String)
  | instruction (mnemonic : Mnemonic) (operands : List String)
  | register (name : String)
deriving DecidableEq, Repr

namespace Line

/-- A word after a tab. -/
def indented (word : String) : String :=
  "\t" ++ word

/-- A word and its operands, separated by a tab and by commas. -/
def statement (word : String) (operands : List String) : String :=
  if operands.isEmpty then indented word
  else indented word ++ "\t" ++ ", ".intercalate operands

/-- The text of a line. -/
def text : Line → String
  | blank => ""
  | heading label => label
  | directive text => indented text
  | instruction mnemonic operands => statement mnemonic.text operands
  | register name => "\t\t" ++ name

/-- A jump to a label. -/
def goto (target : String) : Line :=
  instruction .goto [label target]

/-- A call of a subroutine. -/
def call (target : String) : Line :=
  instruction .call [label target]

end Line

end PicAssembly
