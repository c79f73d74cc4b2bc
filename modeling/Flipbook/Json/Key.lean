import Flipbook.Json.Basic

/-! The names of all fields of frames in JSON. -/
namespace Flipbook.Json.Key

def commands : Key := ⟨"commands", "commands"⟩
def rawText : Key := ⟨"rawText", "raw_text"⟩
def showDebug : Key := ⟨"showDebug", "show_debug"⟩
def errors : Key := ⟨"errors", "errors"⟩
def type : Key := ⟨"type", "type"⟩
def height : Key := ⟨"H", "h"⟩
def width : Key := ⟨"W", "w"⟩
def borderColor : Key := ⟨"borderColor", "border_color"⟩
def textColor : Key := ⟨"textColor", "text_color"⟩
def defaultColor : Key := ⟨"defaultCellColor", "default_cell_color"⟩
def gridColors : Key := ⟨"gridColors", "grid_colors"⟩
def gridTexts : Key := ⟨"gridTexts", "grid_texts"⟩
def gridLines : Key := ⟨"gridLines", "grid_lines"⟩
def wallVertical : Key := ⟨"wallVertical", "wall_vertical"⟩
def wallHorizontal : Key := ⟨"wallHorizontal", "wall_horizontal"⟩
def bounds : Key := ⟨"bounds", "bounds"⟩
def left : Key := ⟨"left", "left"⟩
def top : Key := ⟨"top", "top"⟩
def right : Key := ⟨"right", "right"⟩
def bottom : Key := ⟨"bottom", "bottom"⟩
def color : Key := ⟨"color", "color"⟩
def points : Key := ⟨"points", "points"⟩
def x : Key := ⟨"x", "x"⟩
def y : Key := ⟨"y", "y"⟩
def r : Key := ⟨"r", "r"⟩
def circleGroups : Key := ⟨"circleGroups", "circle_groups"⟩
def lineGroups : Key := ⟨"lineGroups", "line_groups"⟩
def polygonGroups : Key := ⟨"polygonGroups", "polygon_groups"⟩
def lineColor : Key := ⟨"lineColor", "line_color"⟩
def fillColor : Key := ⟨"fillColor", "fill_color"⟩
def circles : Key := ⟨"circles", "circles"⟩
def lines : Key := ⟨"lines", "lines"⟩
def lineWidth : Key := ⟨"width", "width"⟩
def ax : Key := ⟨"ax", "ax"⟩
def ay : Key := ⟨"ay", "ay"⟩
def bx : Key := ⟨"bx", "bx"⟩
def bY : Key := ⟨"by", "by"⟩
def polygon : Key := ⟨"polygon", "polygon"⟩
def yMin : Key := ⟨"yMin", "y_min"⟩
def yMax : Key := ⟨"yMax", "y_max"⟩
def items : Key := ⟨"items", "items"⟩
def label : Key := ⟨"label", "label"⟩
def value : Key := ⟨"value", "value"⟩
def text : Key := ⟨"text", "text"⟩
def score : Key := ⟨"score", "score"⟩

end Flipbook.Json.Key
