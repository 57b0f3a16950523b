namespace Playback.Text

def blanks (count : Nat) : String := String.ofList (List.replicate count ' ')

def alignRight (width : Nat) (text : String) : String := blanks (width - text.length) ++ text

def alignLeft (width : Nat) (text : String) : String := text ++ blanks (width - text.length)

/-- Every line ends with a line feed. -/
def ofLines (lines : List String) : String := String.join (lines.map fun line => line ++ "\n")

end Playback.Text
