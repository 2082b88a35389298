/-!
# `HilBridge.Wire.Dialect` — the packets of the common dialect that the bridge has no use for

A frame's check ends with a seed that belongs to the kind of its packet, so a reader can only tell frames
from accidents for the kinds it has a seed for. The table holds the seeds of all kinds of the common dialect
but those that the bridge itself reads and writes.
-/

namespace HilBridge.Wire

/-- Names and seeds of the kinds that are passed over. -/
def otherSeeds : List (Nat × UInt8) :=
  [(1, 124), (2, 137), (4, 237), (5, 217), (6, 104), (7, 119), (8, 117), (11, 89), (20, 214), (21, 159),
   (22, 220), (23, 168), (24, 24), (25, 23), (26, 170), (27, 144), (28, 67), (29, 115), (30, 39),
   (31, 246), (32, 185), (33, 104), (34, 237), (35, 244), (36, 222), (37, 212), (38, 9), (39, 254),
   (40, 230), (41, 28), (42, 28), (43, 132), (44, 221), (45, 232), (46, 11), (47, 153), (48, 41),
   (49, 39), (50, 78), (51, 196), (54, 15), (55, 3), (61, 167), (62, 183), (63, 119), (64, 191),
   (65, 118), (66, 148), (67, 21), (69, 243), (70, 124), (73, 38), (74, 20), (75, 158), (76, 152),
   (77, 143), (80, 14), (81, 106), (82, 49), (83, 22), (84, 143), (85, 140), (86, 5), (87, 150),
   (89, 231), (90, 183), (91, 63), (92, 54), (100, 175), (101, 102), (102, 158), (103, 208), (104, 56),
   (105, 93), (106, 138), (108, 32), (109, 185), (110, 84), (111, 34), (112, 174), (114, 237), (116, 76),
   (117, 128), (118, 56), (119, 116), (120, 134), (121, 237), (122, 203), (123, 250), (124, 87),
   (125, 203), (126, 220), (127, 25), (128, 226), (129, 46), (130, 29), (131, 223), (133, 6), (134, 229),
   (135, 203), (136, 1), (137, 195), (138, 109), (139, 168), (140, 181), (141, 47), (142, 72), (143, 131),
   (144, 127), (146, 103), (147, 154), (148, 178), (149, 200), (162, 189), (192, 36), (225, 208),
   (230, 163), (231, 105), (232, 151), (233, 35), (234, 150), (235, 179), (241, 90), (242, 104),
   (243, 85), (244, 95), (245, 130), (246, 184), (247, 81), (248, 8), (249, 204), (250, 49), (251, 170),
   (252, 44), (253, 83), (254, 46), (256, 71), (257, 131), (258, 187), (259, 92), (260, 146), (261, 179),
   (262, 12), (263, 133), (264, 49), (265, 26), (266, 193), (267, 35), (268, 14), (269, 109), (270, 59),
   (271, 22), (275, 126), (276, 18), (277, 62), (280, 70), (281, 48), (282, 123), (283, 74), (284, 99),
   (285, 137), (286, 210), (287, 1), (288, 20), (290, 251), (291, 10), (299, 19), (300, 217), (301, 243),
   (310, 28), (311, 95), (320, 243), (321, 88), (322, 243), (323, 78), (324, 132), (330, 23), (331, 91),
   (332, 236), (333, 231), (334, 72), (335, 225), (336, 245), (339, 199), (340, 99), (350, 232),
   (360, 11), (370, 75), (371, 10), (372, 26), (373, 117), (375, 251), (380, 232),
   (385, 147), (386, 132), (387, 4), (388, 8), (390, 156), (395, 0), (396, 50), (397, 182), (400, 110),
   (401, 183), (410, 160), (411, 106), (412, 33), (413, 77), (435, 134), (436, 193), (437, 30),
   (440, 66), (9000, 113), (9005, 117), (12900, 114), (12901, 254), (12902, 140), (12903, 249),
   (12904, 77), (12905, 49), (12915, 94), (12918, 139), (12919, 7), (12920, 20)]

/-- The seed of a kind that is passed over. -/
def otherSeed? (id : Nat) : Option UInt8 :=
  otherSeeds.lookup id

end HilBridge.Wire
