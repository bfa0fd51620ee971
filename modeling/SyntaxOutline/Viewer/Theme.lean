import SyntaxOutline.Screen.Cell

/-!
# The colours of the viewer
-/

namespace SyntaxOutline

namespace Theme

def text : Colour := .rgb 205 214 244

def primary : Colour := .rgb 137 180 250

def secondary : Colour := .rgb 250 179 135

def focusedBorder : Colour := .rgb 249 226 175

def border : Colour := .rgb 108 112 134

def statusGround : Colour := .rgb 50 50 70

def comment : Colour := .rgb 108 112 134

def keyword : Colour := .rgb 203 166 247

def string : Colour := .rgb 166 227 161

def number : Colour := .rgb 250 179 135

def typeName : Colour := .rgb 148 226 213

def call : Colour := .rgb 249 226 175

def header : Colour := .rgb 249 226 175

def token : Colour := .rgb 137 180 250

def tokenValue : Colour := .rgb 245 194 231

def indentGuide : Colour := .rgb 69 71 90

end Theme

end SyntaxOutline
