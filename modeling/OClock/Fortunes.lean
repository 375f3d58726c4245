import OClock.Text

/-!
The messages of fortunes.h. The first one is shown at boot.
-/

namespace OClock.Fortunes
open Text

def modeMsgsIndexBoot : UInt32 := 0
def modeMsgsIndexFortunate1 : UInt32 := 1
def modeMsgsIndexLast : UInt32 := 65

def modeMessageMsgs : List Bytes := [
  "--Starting clock--",
  "When all else seems to fail, smile for today and just love someone",
  "When you look down, all you see is dirt, so keep looking up",
  "If you are afraid to shake the dice, you will never throw a six",
  "A single conversation with a wise man is better than ten years of study",
  "Happiness is often a rebound from hard work",
  "The world may be your oyster, but that doesn't mean you'll get it's pearl",
  "Do not follow where the path may lead. Go where there is no path...and leave a trail",
  "Do not fear what you don't know",
  "Try everything once, even the things you don't think you will like",
  "If you wish to know the mind of a man, listen to his words",
  "The most useless energy is trying to change what and who God so carefully created",
  "Do not be covered in sadness or be fooled in happiness they both must exist",
  "All progress occurs because people dare to be different",
  "Whenever possible, keep it simple",
  "Look right... Now look left... Now look forward (do this really fast) do you feel any " ++
    "different? good you should feel dizzy",
  "Bend the rod while it is still hot",
  "Use the force",
  "Nothing is as good or bad as it appears",
  "Don't worry, be happy",
  "Never quit!",
  "You can do anything, but not everything",
  "Perfection is achieved, not when there is nothing more to add, but when there is " ++
    "nothing left to take away",
  "The richest man is not he who has the most, but he who needs the least",
  "You miss 100 percent of the shots you never take",
  "Courage is not the absence of fear, but rather the judgement that something else is " ++
    "more important than fear",
  "You must be the change you wish to see in the world",
  "When hungry, eat your rice. When tired, close your eyes. Fools may laugh at me, but " ++
    "wise men will know what I mean",
  "The third-rate mind is only happy when it is thinking with the majority. The " ++
    "second-rate mind is only happy when it is thinking with the minority. The first-rate " ++
    "mind is only happy when it is thinking",
  "To the man who only has a hammer, everything he encounters begins to look like a nail",
  "We are what we repeatedly do -- excellence, then, is not an act but a habit",
  "A wise man gets more use from his enemies than a fool from his friends",
  "Do not seek to follow in the footsteps of the men of old -- seek what they sought",
  "Watch your thoughts -- they become words. Watch your words -- they become actions. " ++
    "Watch your actions -- they become habits. Watch your habits -- they become character. " ++
    "Watch your character -- it becomes your destiny",
  "Everyone is a genius at least once a year. The real geniuses simply have their bright " ++
    "ideas closer together",
  "What we think, or what we know, or what we believe is, in the end, of little " ++
    "consequence. The only consequence is what we do",
  "The real voyage of discovery consists not in seeking new lands but seeing with new " ++
    "eyes",
  "Work like you don't need money, love like you've never been hurt, and dance like no " ++
    "one's watching",
  "Try a thing you haven't done three times. Once, to get over the fear of doing it. " ++
    "Twice, to learn how to do it. And a third time, to figure out whether you like it or " ++
    "not",
  "Even if you're on the right track, you'll get run over if you just sit there",
  "People often say that motivation doesn't last. Well, neither does bathing -- that's " ++
    "why we recommend it daily",
  "The real meaning of enlightenment is to gaze with undimmed eyes on all undimmed",
  "A journey of 1,000 miles must begin with a single step",
  "Show your true face to the people who really matter",
  "Let reality be reality",
  "A good memory is fine, but the ability to forget is the one true test of greatness",
  "Joys are often the shadows cast by sorrows",
  "Good to begin well, better to end well",
  "A good sport cannot fail!",
  "Your mind can make your body rich",
  "The Buddha said there is no one thing that stays the same during this life",
  "A good time to keep your mouth shut is when you are in deep water",
  "If you really want something, you'll find a way -- if you don't, you'll find an excuse",
  "To break a bad habit, drop it",
  "If we did a better job of listening, history wouldn't have to repeat itself",
  "To get nowhere, follow the crowd",
  "A bank is a place that will lend you money, if you can prove that you don't need it",
  "Always keep your words soft and sweet, in case you have to eat them",
  "When everything is coming your way, you are in the wrong lane",
  "If you find yourself in a hole, stop digging",
  "Knowledge is knowing a tomato is a fruit, but wisdom is not putting it in a fruit " ++
    "salad",
  "Evening news is where they begin with 'Good Evening' and proceed to tell you why it " ++
    "isn't",
  "Change is inevitable, except from a vending machine",
  "Some mistakes are too much fun to make only once",
  "Always borrow money from a pessimist, he won't expect to get it back"].map bytes

/-- Every index below the last one has its message. -/
example : modeMessageMsgs.length = modeMsgsIndexLast.toNat := rfl

end OClock.Fortunes
